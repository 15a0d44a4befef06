import Mathlib.Data.List.TakeWhile
import RuleMatrix.Comparison.Numeric
import RuleMatrix.Proofs.Sequence
import RuleMatrix.Proofs.Text.Digit

set_option autoImplicit false

namespace RuleMatrix.Numeric

inductive Signed : Bool → List Char → Prop where
  | bare : Signed false []
  | plus : Signed false ['+']
  | minus : Signed true ['-']

-- The digits of a fraction, and how they are written: a point may stand without digits behind it.
inductive Pointed : List Char → List Char → Prop where
  | whole : Pointed [] []
  | point (digits : List Char) (each : ∀ c ∈ digits, isDigitOf 10 c = true) :
      Pointed digits ('.' :: digits)

inductive Raised : Int → List Char → Prop where
  | plain : Raised 0 []
  | power (mark : Char) (negative : Bool) (sign digits : List Char) (marked : mark = 'e' ∨ mark = 'E')
      (signed : Signed negative sign) (given : DigitsOf 10 digits) :
      Raised (if negative then -(ofDigits 10 digits : Int) else ofDigits 10 digits)
        (mark :: (sign ++ digits))

inductive DecimalText : Decimal → List Char → Prop where
  | spelled (negative : Bool) (sign whole fraction point : List Char) (power : Int) (raised : List Char)
      (signed : Signed negative sign) (each : ∀ c ∈ whole, isDigitOf 10 c = true)
      (pointed : Pointed fraction point) (given : whole ≠ [] ∨ fraction ≠ [])
      (last : Raised power raised) :
      DecimalText (Decimal.ofParts negative whole fraction power)
        (sign ++ (whole ++ (point ++ raised)))

theorem sign_split_sound (cs : List Char) :
    ∃ sign, Signed (splitSign cs).1 sign ∧ cs = sign ++ (splitSign cs).2 := by
  unfold splitSign
  split
  · exact ⟨['+'], .plus, rfl⟩
  · exact ⟨['-'], .minus, rfl⟩
  · exact ⟨[], .bare, rfl⟩

theorem sign_split (negative : Bool) (sign rest : List Char) (signed : Signed negative sign)
    (stop : ∀ c ∈ rest.head?, c ≠ '+' ∧ c ≠ '-') : splitSign (sign ++ rest) = (negative, rest) := by
  cases signed with
  | plus => rfl
  | minus => rfl
  | bare =>
      change splitSign rest = _
      unfold splitSign
      split
      · exact absurd rfl (stop '+' rfl).1
      · exact absurd rfl (stop '-' rfl).2
      · rfl

theorem digit_no_sign (base : Nat) (hexadecimal : base ≤ 16) (c : Char)
    (digit : isDigitOf base c = true) : c ≠ '+' ∧ c ≠ '-' := by
  have codes := digit_codes c (digit_of_larger base 16 c hexadecimal digit)
  constructor
  · rintro rfl
    revert codes
    decide
  · rintro rfl
    revert codes
    decide

theorem exponent_formed_iff (mark : Char) (digits : List Char) :
    ((mark == 'e' || mark == 'E') && !digits.isEmpty && digits.all (isDigitOf 10)) = true ↔
      (mark = 'e' ∨ mark = 'E') ∧ DigitsOf 10 digits := by
  rw [Bool.and_assoc, Bool.and_eq_true, Bool.or_eq_true, beq_iff_eq, beq_iff_eq, digits_of_iff]

theorem exponent_iff (cs : List Char) (power : Int) : exponent? cs = some power ↔ Raised power cs := by
  cases cs with
  | nil =>
      constructor
      · intro same
        obtain rfl := Option.some.inj same
        exact .plain
      · rintro ⟨⟩
        rfl
  | cons mark rest =>
      rw [exponent?]
      constructor
      · obtain ⟨sign, signed, whole⟩ := sign_split_sound rest
        generalize splitSign rest = parts at signed whole ⊢
        obtain ⟨negative, digits⟩ := parts
        dsimp only at signed whole ⊢
        intro read
        split at read
        · rename_i formed
          obtain ⟨marked, given⟩ := (exponent_formed_iff mark digits).mp formed
          rw [whole, ← Option.some.inj read]
          exact .power mark negative sign digits marked signed given
        · cases read
      · rintro (_ | ⟨_, negative, sign, digits, marked, signed, given⟩)
        have stop : ∀ c ∈ digits.head?, c ≠ '+' ∧ c ≠ '-' := fun c first =>
          digit_no_sign 10 (by decide) c (given.each c (List.mem_of_mem_head? first))
        rw [sign_split negative sign digits signed stop]
        exact if_pos ((exponent_formed_iff mark digits).mpr ⟨marked, given⟩)

theorem raised_starts (power : Int) (raised : List Char) (last : Raised power raised) :
    ∀ c ∈ raised.head?, isDigitOf 10 c = false ∧ c ≠ '.' := by
  cases last with
  | plain => exact nofun
  | power mark negative sign digits marked =>
      intro c first
      obtain rfl := Option.some.inj first
      rcases marked with rfl | rfl <;> decide

theorem fraction_split_sound (cs : List Char) :
    ∃ point, Pointed (splitFraction cs).1 point ∧ cs = point ++ (splitFraction cs).2 := by
  unfold splitFraction
  split
  · rename_i rest
    refine ⟨'.' :: rest.takeWhile (isDigitOf 10), .point _ fun c => List.mem_takeWhile_imp, ?_⟩
    rw [List.cons_append, List.takeWhile_append_dropWhile]
  · exact ⟨[], .whole, rfl⟩

theorem fraction_split (fraction point rest : List Char) (pointed : Pointed fraction point)
    (stop : ∀ c ∈ rest.head?, isDigitOf 10 c = false ∧ c ≠ '.') :
    splitFraction (point ++ rest) = (fraction, rest) := by
  cases pointed with
  | whole =>
      change splitFraction rest = _
      unfold splitFraction
      split
      · exact absurd rfl (stop '.' rfl).2
      · rfl
  | point _ each =>
      have ended : ∀ c ∈ rest.head?, isDigitOf 10 c = false := fun c first => (stop c first).1
      rw [List.cons_append, splitFraction, Sequence.run_taken _ fraction rest each ended,
        Sequence.run_dropped _ fraction rest each ended]

theorem fraction_starts (fraction point rest : List Char) (pointed : Pointed fraction point)
    (stop : ∀ c ∈ rest.head?, isDigitOf 10 c = false) :
    ∀ c ∈ (point ++ rest).head?, isDigitOf 10 c = false := by
  cases pointed with
  | whole => exact stop
  | point each =>
      rintro c first
      obtain rfl : '.' = c := Option.some.inj first
      decide

theorem decimal_sound (cs : List Char) (d : Decimal) (read : decimal? cs = some d) :
    DecimalText d cs := by
  obtain ⟨sign, signed, signedWhole⟩ := sign_split_sound cs
  unfold decimal? at read
  generalize splitSign cs = parts at signed signedWhole read
  obtain ⟨negative, unsigned⟩ := parts
  dsimp only at signed signedWhole read
  obtain ⟨point, pointed, pointedWhole⟩ := fraction_split_sound (unsigned.dropWhile (isDigitOf 10))
  generalize splitFraction (unsigned.dropWhile (isDigitOf 10)) = parts at pointed pointedWhole read
  obtain ⟨fraction, rest⟩ := parts
  dsimp only at pointed pointedWhole read
  have whole : unsigned.takeWhile (isDigitOf 10) ++ (point ++ rest) = unsigned := by
    rw [← pointedWhole, List.takeWhile_append_dropWhile]
  split at read
  · cases read
  · rename_i given
    rw [Bool.and_eq_true, List.isEmpty_iff, List.isEmpty_iff, not_and_or] at given
    obtain ⟨power, last, rfl⟩ := Option.map_eq_some_iff.mp read
    have spelled := DecimalText.spelled negative sign _ fraction point power rest signed
      (fun c => List.mem_takeWhile_imp) pointed given ((exponent_iff rest power).mp last)
    rw [whole] at spelled
    rw [signedWhole]
    exact spelled

theorem unsigned_start (whole fraction point rest : List Char)
    (each : ∀ c ∈ whole, isDigitOf 10 c = true) (pointed : Pointed fraction point)
    (given : whole ≠ [] ∨ fraction ≠ []) :
    ∀ c ∈ (whole ++ (point ++ rest)).head?, c ≠ '+' ∧ c ≠ '-' := by
  cases whole with
  | cons digit others =>
      rintro c first
      obtain rfl : digit = c := Option.some.inj first
      exact digit_no_sign 10 (by decide) digit (each digit List.mem_cons_self)
  | nil =>
      cases pointed with
      | whole => exact absurd rfl (given.resolve_left (absurd rfl))
      | point =>
          rintro c first
          obtain rfl : '.' = c := Option.some.inj first
          decide

theorem decimal_complete (cs : List Char) (d : Decimal) (spelled : DecimalText d cs) :
    decimal? cs = some d := by
  obtain ⟨negative, sign, whole, fraction, point, power, raised, signed, each, pointed, given, last⟩ :=
    spelled
  have stop := raised_starts power raised last
  have behind := fraction_starts fraction point raised pointed fun c first => (stop c first).1
  have start := unsigned_start whole fraction point raised each pointed given
  have filled : ¬ (whole.isEmpty && fraction.isEmpty) = true := by
    rwa [Bool.and_eq_true, List.isEmpty_iff, List.isEmpty_iff, not_and_or]
  unfold decimal?
  rw [sign_split negative sign _ signed start]
  dsimp only
  rw [Sequence.run_taken _ whole _ each behind, Sequence.run_dropped _ whole _ each behind,
    fraction_split fraction point raised pointed stop]
  dsimp only
  rw [if_neg filled, (exponent_iff raised power).mpr last]
  rfl

theorem decimal_iff (cs : List Char) (d : Decimal) : decimal? cs = some d ↔ DecimalText d cs :=
  ⟨decimal_sound cs d, decimal_complete cs d⟩

theorem sign_literal (negative : Bool) (sign : List Char) (signed : Signed negative sign) :
    ∀ c ∈ sign, isLiteralChar c = true := by
  cases signed with
  | bare => exact nofun
  | plus => exact List.forall_mem_singleton.mpr rfl
  | minus => exact List.forall_mem_singleton.mpr rfl

theorem digits_literal (digits : List Char) (each : ∀ c ∈ digits, isDigitOf 10 c = true) :
    ∀ c ∈ digits, isLiteralChar c = true := by
  intro c member
  rw [isLiteralChar, each c member, Bool.true_or]

theorem decimal_literal (cs : List Char) (d : Decimal) (spelled : DecimalText d cs) :
    ∀ c ∈ cs, isLiteralChar c = true := by
  obtain ⟨negative, sign, whole, fraction, point, power, raised, signed, each, pointed, _, last⟩ :=
    spelled
  have behindPoint : ∀ c ∈ point, isLiteralChar c = true := by
    cases pointed with
    | whole => exact nofun
    | point _ each => exact List.forall_mem_cons.mpr ⟨by decide, digits_literal fraction each⟩
  have exponent : ∀ c ∈ raised, isLiteralChar c = true := by
    cases last with
    | plain => exact nofun
    | power mark negative sign digits marked signed given =>
        have letter : isLiteralChar mark = true := by
          rcases marked with rfl | rfl <;> decide
        exact List.forall_mem_cons.mpr ⟨letter, List.forall_mem_append.mpr
          ⟨sign_literal negative sign signed, digits_literal digits given.each⟩⟩
  exact List.forall_mem_append.mpr ⟨sign_literal negative sign signed, List.forall_mem_append.mpr
    ⟨digits_literal whole each, List.forall_mem_append.mpr ⟨behindPoint, exponent⟩⟩⟩

theorem decimal_digit (cs : List Char) (d : Decimal) (spelled : DecimalText d cs) :
    ∃ c ∈ cs, isDigitOf 10 c = true := by
  obtain ⟨negative, sign, whole, fraction, point, power, raised, _, each, pointed, given, _⟩ := spelled
  have inside : ∀ c ∈ whole ++ point, c ∈ sign ++ (whole ++ (point ++ raised)) := by
    simp only [List.mem_append]
    tauto
  rcases given with filled | filled
  · obtain ⟨c, member⟩ := List.exists_mem_of_ne_nil whole filled
    exact ⟨c, inside c (List.mem_append_left point member), each c member⟩
  · cases pointed with
    | whole => exact absurd rfl filled
    | point _ behind =>
        obtain ⟨c, member⟩ := List.exists_mem_of_ne_nil fraction filled
        have there : c ∈ whole ++ '.' :: fraction :=
          List.mem_append_right whole (List.mem_cons_of_mem '.' member)
        exact ⟨c, inside c there, behind c member⟩

theorem last_behind (front back : List Char) (c : Char) (filled : back ≠ [])
    (found : c ∈ (front ++ back).getLast?) : c ∈ back := by
  rw [Option.mem_def, List.getLast?_append,
    Option.or_of_isSome (List.getLast?_isSome.mpr filled)] at found
  exact List.mem_of_getLast? found

theorem decimal_ends (cs : List Char) (d : Decimal) (spelled : DecimalText d cs) :
    ∀ c ∈ cs.getLast?, isDigitOf 10 c = true ∨ c = '.' := by
  obtain ⟨negative, sign, whole, fraction, point, power, raised, _, each, pointed, given, last⟩ := spelled
  intro c found
  cases last with
  | power mark minus sign' digits _ _ figures =>
      have whole' : sign ++ (whole ++ (point ++ mark :: (sign' ++ digits))) =
          (sign ++ whole ++ point ++ mark :: sign') ++ digits := by simp
      rw [whole'] at found
      exact .inl (figures.each c (last_behind _ digits c figures.nonempty found))
  | plain =>
      rw [List.append_nil] at found
      cases pointed with
      | point _ behind =>
          rw [← List.append_assoc] at found
          rcases List.mem_cons.mp (last_behind _ _ c (List.cons_ne_nil '.' fraction) found) with dot | member
          · exact .inr dot
          · exact .inl (behind c member)
      | whole =>
          rw [List.append_nil] at found
          have filled : whole ≠ [] := given.resolve_right (absurd rfl)
          exact .inl (each c (last_behind sign whole c filled found))

end RuleMatrix.Numeric
