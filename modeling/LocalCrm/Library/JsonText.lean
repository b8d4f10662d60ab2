import Mathlib.Data.Rat.Defs
import Mathlib.Algebra.Field.Rat
import Mathlib.Data.List.DropRight
import LocalCrm.Library.Unicode

/-! JSON as `JSON.parse` reads it and flat records as `JSON.stringify` writes them.

A parsed number is the exact value of its literal.
-/

set_option autoImplicit false

namespace LocalCrm.Library.JsonText

inductive Value where
  | null
  | boolean (value : Bool)
  | number (value : Rat)
  | string (text : Text)
  | array (items : List Value)
  | object (fields : List (Text × Value))

def unitOf (character : Char) : UInt16 := UInt16.ofNat character.toNat

def ascii (text : String) : Text := text.toList.map unitOf

def isSpace (unit : UInt16) : Bool := unit == 0x09 || unit == 0x0A || unit == 0x0D || unit == 0x20

def skipSpace (text : Text) : Text := text.dropWhile isSpace

def afterUnit (unit : UInt16) (text : Text) : Option Text :=
  if (skipSpace text).head? = some unit then some (skipSpace text).tail else none

section Strings

def hexValue (unit : UInt16) : Option Nat :=
  if 0x30 ≤ unit.toNat ∧ unit.toNat ≤ 0x39 then some (unit.toNat - 0x30)
  else if 0x61 ≤ unit.toNat ∧ unit.toNat ≤ 0x66 then some (unit.toNat - 0x61 + 10)
  else if 0x41 ≤ unit.toNat ∧ unit.toNat ≤ 0x46 then some (unit.toNat - 0x41 + 10)
  else none

def hexDigit (value : Nat) : UInt16 :=
  if value < 10 then UInt16.ofNat (0x30 + value) else UInt16.ofNat (0x61 + (value - 10))

def hexUnit (first second third fourth : UInt16) : Option UInt16 := do
  let first ← hexValue first
  let second ← hexValue second
  let third ← hexValue third
  let fourth ← hexValue fourth
  return UInt16.ofNat (first * 4096 + second * 256 + third * 16 + fourth)

def quotation : UInt16 := 0x22

def backslash : UInt16 := 0x5C

def unescape (letter : UInt16) : Option UInt16 :=
  if letter = quotation then some quotation
  else if letter = backslash then some backslash
  else if letter = 0x2F then some 0x2F
  else if letter = 0x62 then some 0x08
  else if letter = 0x66 then some 0x0C
  else if letter = 0x6E then some 0x0A
  else if letter = 0x72 then some 0x0D
  else if letter = 0x74 then some 0x09
  else none

def stringBody : Text → Option (Text × Text)
  | [] => none
  | unit :: rest =>
    if unit = quotation then some ([], rest)
    else if unit = backslash then
      match rest with
      | [] => none
      | letter :: after =>
        if letter = 0x75 then
          match after with
          | first :: second :: third :: fourth :: more => do
            let escaped ← hexUnit first second third fourth
            let read ← stringBody more
            return (escaped :: read.1, read.2)
          | _ => none
        else do
          let escaped ← unescape letter
          let read ← stringBody after
          return (escaped :: read.1, read.2)
    else if unit.toNat < 0x20 then none
    else (stringBody rest).map fun read => (unit :: read.1, read.2)

def unicodeEscape (unit : UInt16) : Text :=
  [backslash, 0x75, hexDigit (unit.toNat / 4096), hexDigit (unit.toNat / 256 % 16),
    hexDigit (unit.toNat / 16 % 16), hexDigit (unit.toNat % 16)]

def quoteUnit (unit : UInt16) : Text :=
  if unit = quotation then [backslash, quotation]
  else if unit = backslash then [backslash, backslash]
  else if unit = 0x08 then [backslash, 0x62]
  else if unit = 0x0C then [backslash, 0x66]
  else if unit = 0x0A then [backslash, 0x6E]
  else if unit = 0x0D then [backslash, 0x72]
  else if unit = 0x09 then [backslash, 0x74]
  else if unit.toNat < 0x20 then unicodeEscape unit
  else [unit]

def quoteBody : Text → Text
  | [] => []
  | unit :: rest =>
    if isHighSurrogate unit then
      match rest with
      | [] => unicodeEscape unit
      | next :: after =>
        if isLowSurrogate next then unit :: next :: quoteBody after
        else unicodeEscape unit ++ quoteBody (next :: after)
    else if isLowSurrogate unit then unicodeEscape unit ++ quoteBody rest
    else quoteUnit unit ++ quoteBody rest

def quoted (text : Text) : Text := quotation :: (quoteBody text ++ [quotation])

variable {unit next : UInt16} {text rest : Text}

theorem hexValue_hexDigit : ∀ value < 16, hexValue (hexDigit value) = some value := by decide

theorem hexDigit_ne_surrogate : ∀ value < 16,
    isHighSurrogate (hexDigit value) = false ∧ isLowSurrogate (hexDigit value) = false := by decide

theorem stringBody_plain (quote : unit ≠ quotation) (slash : unit ≠ backslash) (visible : 0x20 ≤ unit.toNat) :
    stringBody (unit :: rest) = (stringBody rest).map fun read => (unit :: read.1, read.2) := by
  rw [stringBody.eq_def]
  simp only [if_neg quote, if_neg slash, if_neg (Nat.not_lt.mpr visible)]

theorem stringBody_letter {letter escaped : UInt16} (plain : letter ≠ 0x75) (known : unescape letter = some escaped) :
    stringBody (backslash :: letter :: rest) = (stringBody rest).map fun read => (escaped :: read.1, read.2) := by
  rw [stringBody.eq_def]
  simp only [if_neg (show backslash ≠ quotation by decide), if_true, if_neg plain, known]
  cases stringBody rest with
  | none | some => rfl

theorem stringBody_unicodeEscape :
    stringBody (unicodeEscape unit ++ rest) = (stringBody rest).map fun read => (unit :: read.1, read.2) := by
  have bound := unit.toNat_lt
  have digits : hexUnit (hexDigit (unit.toNat / 4096)) (hexDigit (unit.toNat / 256 % 16))
      (hexDigit (unit.toNat / 16 % 16)) (hexDigit (unit.toNat % 16)) = some unit := by
    have whole : unit.toNat / 4096 * 4096 + unit.toNat / 256 % 16 * 256 + unit.toNat / 16 % 16 * 16 +
        unit.toNat % 16 = unit.toNat := by omega
    simp only [hexUnit, hexValue_hexDigit _ (show unit.toNat / 4096 < 16 by omega),
      hexValue_hexDigit _ (Nat.mod_lt _ (by decide)), Option.bind_eq_bind, Option.bind_some, whole, UInt16.ofNat_toNat,
      Option.pure_def]
  unfold unicodeEscape
  simp only [List.cons_append, List.nil_append]
  rw [stringBody.eq_def]
  simp only [if_neg (show backslash ≠ quotation by decide), if_true, digits]
  cases stringBody rest with
  | none | some => rfl

theorem stringBody_quoteUnit :
    stringBody (quoteUnit unit ++ rest) = (stringBody rest).map fun read => (unit :: read.1, read.2) := by
  unfold quoteUnit
  by_cases quote : unit = quotation
  · rw [if_pos quote, quote]
    exact stringBody_letter (by decide) (by decide)
  by_cases slash : unit = backslash
  · rw [if_neg quote, if_pos slash, slash]
    exact stringBody_letter (by decide) (by decide)
  rw [if_neg quote, if_neg slash]
  split
  · case isTrue back =>
    rw [back]
    exact stringBody_letter (by decide) (by decide)
  split
  · case isTrue feed =>
    rw [feed]
    exact stringBody_letter (by decide) (by decide)
  split
  · case isTrue newline =>
    rw [newline]
    exact stringBody_letter (by decide) (by decide)
  split
  · case isTrue carriage =>
    rw [carriage]
    exact stringBody_letter (by decide) (by decide)
  split
  · case isTrue tab =>
    rw [tab]
    exact stringBody_letter (by decide) (by decide)
  split
  · exact stringBody_unicodeEscape
  · case isFalse visible =>
    exact stringBody_plain quote slash (by omega)

theorem ne_of_surrogate (surrogate : isHighSurrogate unit = true ∨ isLowSurrogate unit = true) :
    unit ≠ quotation ∧ unit ≠ backslash ∧ 0x20 ≤ unit.toNat := by
  have large : 0xD800 ≤ unit.toNat := by
    simp only [isHighSurrogate, isLowSurrogate, Bool.and_eq_true, decide_eq_true_eq] at surrogate
    omega
  refine ⟨?_, ?_, by omega⟩
  · rintro rfl
    exact absurd large (by decide)
  · rintro rfl
    exact absurd large (by decide)

theorem stringBody_quoteBody : stringBody (quoteBody text ++ quotation :: rest) = some (text, rest) := by
  fun_induction quoteBody text with
  | case1 =>
    rw [List.nil_append, stringBody.eq_def]
    simp only [if_true]
  | case2 unit high =>
    rw [stringBody_unicodeEscape, stringBody.eq_def]
    simp only [if_true, Option.map_some]
  | case3 unit high next after low ih =>
    obtain ⟨quote, slash, visible⟩ := ne_of_surrogate (.inl high)
    obtain ⟨otherQuote, otherSlash, otherVisible⟩ := ne_of_surrogate (.inr low)
    rw [List.cons_append, List.cons_append, stringBody_plain quote slash visible,
      stringBody_plain otherQuote otherSlash otherVisible, ih]
    rfl
  | case4 unit high next after low ih | case5 unit rest high low ih =>
    rw [List.append_assoc, stringBody_unicodeEscape, ih]
    rfl
  | case6 unit rest high low ih =>
    rw [List.append_assoc, stringBody_quoteUnit, ih]
    rfl

theorem wellFormed_of_plain (plain : ∀ unit ∈ text, isHighSurrogate unit = false ∧ isLowSurrogate unit = false) :
    wellFormed text = true := by
  induction text with
  | nil => rfl
  | cons unit rest ih =>
    obtain ⟨first, others⟩ := List.forall_mem_cons.mp plain
    rw [wellFormed_unit first.1 first.2]
    exact ih others

theorem wellFormed_unicodeEscape : wellFormed (unicodeEscape unit) = true := by
  have bound := unit.toNat_lt
  apply wellFormed_of_plain
  simp only [unicodeEscape, List.forall_mem_cons, List.not_mem_nil, false_implies, implies_true, and_true]
  exact ⟨by decide, by decide, hexDigit_ne_surrogate _ (by omega), hexDigit_ne_surrogate _ (Nat.mod_lt _ (by decide)),
    hexDigit_ne_surrogate _ (Nat.mod_lt _ (by decide)), hexDigit_ne_surrogate _ (Nat.mod_lt _ (by decide))⟩

theorem wellFormed_quoteUnit (high : isHighSurrogate unit = false) (low : isLowSurrogate unit = false) :
    wellFormed (quoteUnit unit) = true := by
  unfold quoteUnit
  split_ifs
  · rfl
  · rfl
  · rfl
  · rfl
  · rfl
  · rfl
  · rfl
  · exact wellFormed_unicodeEscape
  · rw [wellFormed_unit high low]
    rfl

theorem wellFormed_quoteBody : wellFormed (quoteBody text) = true := by
  fun_induction quoteBody text with
  | case1 => rfl
  | case2 unit high => exact wellFormed_unicodeEscape
  | case3 unit high next after low ih => rw [wellFormed_pair high low, ih]
  | case4 unit high next after low ih | case5 unit rest high low ih =>
    rw [wellFormed_append wellFormed_unicodeEscape, ih]
  | case6 unit rest high low ih =>
    rw [Bool.not_eq_true] at high low
    rw [wellFormed_append (wellFormed_quoteUnit high low), ih]

theorem wellFormed_quoted : wellFormed (quoted text) = true := by
  rw [quoted, wellFormed_unit (by decide) (by decide), wellFormed_append wellFormed_quoteBody]
  rfl

end Strings

section Numbers

def isDigit (unit : UInt16) : Bool := 0x30 ≤ unit.toNat && unit.toNat ≤ 0x39

def digitsValue (digits : Text) : Nat := digits.foldl (fun value unit => value * 10 + (unit.toNat - 0x30)) 0

def fractionPart (text : Text) : Option (Text × Text) :=
  if text.head? = some 0x2E then
    if text.tail.takeWhile isDigit = [] then none
    else some (text.tail.takeWhile isDigit, text.tail.dropWhile isDigit)
  else some ([], text)

def exponentPart (text : Text) : Option (Int × Text) :=
  if text.head? = some 0x65 ∨ text.head? = some 0x45 then
    let signed := text.tail
    let unsigned := if signed.head? = some 0x2B ∨ signed.head? = some 0x2D then signed.tail else signed
    if unsigned.takeWhile isDigit = [] then none
    else
      let value : Int := digitsValue (unsigned.takeWhile isDigit)
      some (if signed.head? = some 0x2D then -value else value, unsigned.dropWhile isDigit)
  else some (0, text)

def magnitudeText (text : Text) : Option (Rat × Text) :=
  let whole := text.takeWhile isDigit
  if whole = [] ∨ whole.head? = some 0x30 ∧ whole.length ≠ 1 then none
  else do
    let fraction ← fractionPart (text.dropWhile isDigit)
    let exponent ← exponentPart fraction.2
    return (digitsValue (whole ++ fraction.1) * (10 : Rat) ^ (exponent.1 - fraction.1.length), exponent.2)

def numberText (text : Text) : Option (Rat × Text) :=
  if text.head? = some 0x2D then (magnitudeText text.tail).map fun read => (-read.1, read.2)
  else magnitudeText text

def digitUnits (value : Nat) : Text := (Nat.toDigits 10 value).map unitOf

def isZero (unit : UInt16) : Bool := unit == 0x30

/-- The digits up to the last that counts, with a point after the first, and the place of the first. -/
def exponentText (digits : Text) : Text :=
  match digits.rdropWhile isZero with
  | [] => [0x30]
  | first :: more =>
    first :: ((if more = [] then [] else 0x2E :: more) ++ 0x65 :: 0x2B :: digitUnits (digits.length - 1))

/-- From 10²¹ on a number is written with an exponent. -/
def naturalText (value : Nat) : Text :=
  if value < 10 ^ 21 then digitUnits value else exponentText (digitUnits value)

def integerText (value : Int) : Text :=
  if value < 0 then 0x2D :: naturalText value.natAbs else naturalText value.natAbs

def EndsNumber (text : Text) : Prop :=
  ∀ unit ∈ text.head?, isDigit unit = false ∧ unit ≠ 0x2E ∧ unit ≠ 0x65 ∧ unit ≠ 0x45

variable {value : Nat} {rest : Text}

theorem toNat_unitOf {digit : Char} (decimal : digit.isDigit = true) :
    (unitOf digit).toNat = digit.toNat ∧ isDigit (unitOf digit) = true := by
  rw [Char.isDigit_iff_toNat, show '0'.toNat = 0x30 from rfl, show '9'.toNat = 0x39 from rfl] at decimal
  have same : (unitOf digit).toNat = digit.toNat := UInt16.toNat_ofNat_of_lt' (by simp only [UInt16.size]; omega)
  rw [isDigit, same, Bool.and_eq_true, decide_eq_true_eq, decide_eq_true_eq]
  omega

theorem isDigit_digitUnits : ∀ unit ∈ digitUnits value, isDigit unit = true := by
  intro unit member
  obtain ⟨digit, written, rfl⟩ := List.mem_map.mp member
  exact (toNat_unitOf (Nat.isDigit_of_mem_toDigits (by decide) (by decide) written)).2

theorem digitsValue_digitUnits : digitsValue (digitUnits value) = value := by
  have general : ∀ (digits : List Char) (start : Nat), (∀ digit ∈ digits, digit.isDigit = true) →
      (digits.map unitOf).foldl (fun value unit => value * 10 + (unit.toNat - 0x30)) start =
        Nat.ofDigitChars 10 digits start := by
    intro digits
    induction digits with
    | nil => intro start _; rfl
    | cons digit others ih =>
      intro start decimal
      obtain ⟨first, rest⟩ := List.forall_mem_cons.mp decimal
      rw [List.map_cons, List.foldl_cons, ih _ rest, Nat.ofDigitChars_cons, (toNat_unitOf first).1, Nat.mul_comm start]
      rfl
  unfold digitsValue digitUnits
  rw [general _ 0 fun digit => Nat.isDigit_of_mem_toDigits (by decide) (by decide), Nat.ofDigitChars_ten_toDigits]

theorem digitUnits_ne_nil : digitUnits value ≠ [] :=
  fun none => Nat.toDigits_ne_nil (List.map_eq_nil_iff.mp none)

theorem no_leading_zero : (digitUnits value).head? = some 0x30 → (digitUnits value).length = 1 := by
  have started : ∀ value : Nat, 0 < value → (digitUnits value).head? ≠ some 0x30 := by
    intro value
    induction value using Nat.base_induction 10 (by decide) with
    | single digit small =>
      unfold digitUnits
      revert digit
      decide
    | digit front last small positive ih =>
      intro _
      have split : digitUnits (10 * front + last) = digitUnits front ++ digitUnits last := by
        unfold digitUnits
        rw [← Nat.toDigits_append_toDigits (by decide) positive small, List.map_append]
      rw [split, List.head?_append_of_ne_nil _ digitUnits_ne_nil]
      exact ih positive
  intro zero
  cases value with
  | zero => rfl
  | succ previous => exact absurd zero (started _ (Nat.succ_pos previous))

theorem takeWhile_digits {digits : Text} (decimal : ∀ unit ∈ digits, isDigit unit = true)
    (ended : ∀ unit ∈ rest.head?, isDigit unit = false) :
    (digits ++ rest).takeWhile isDigit = digits ∧ (digits ++ rest).dropWhile isDigit = rest := by
  have stop : rest.takeWhile isDigit = [] ∧ rest.dropWhile isDigit = rest := by
    cases rest with
    | nil => exact ⟨rfl, rfl⟩
    | cons unit after =>
      have other := ended unit rfl
      exact ⟨List.takeWhile_cons_of_neg (by simp [other]), List.dropWhile_cons_of_neg (by simp [other])⟩
  rw [List.takeWhile_append_of_pos decimal, List.dropWhile_append_of_pos decimal, stop.1, stop.2, List.append_nil]
  exact ⟨rfl, rfl⟩

theorem plain_after_number (ended : EndsNumber rest) :
    fractionPart rest = some ([], rest) ∧ exponentPart rest = some (0, rest) := by
  have differs : rest.head? ≠ some 0x2E ∧ ¬ (rest.head? = some 0x65 ∨ rest.head? = some 0x45) := by
    refine ⟨fun point => (ended _ point).2.1 rfl, ?_⟩
    rintro (lower | upper)
    · exact (ended _ lower).2.2.1 rfl
    · exact (ended _ upper).2.2.2 rfl
  exact ⟨if_neg differs.1, if_neg differs.2⟩

theorem magnitudeText_digitUnits (ended : EndsNumber rest) :
    magnitudeText (digitUnits value ++ rest) = some ((value : Rat), rest) := by
  obtain ⟨digits, others⟩ := takeWhile_digits (@isDigit_digitUnits value) fun unit first => (ended unit first).1
  obtain ⟨fraction, exponent⟩ := plain_after_number ended
  have whole : ¬ (digitUnits value = [] ∨
      (digitUnits value).head? = some 0x30 ∧ (digitUnits value).length ≠ 1) := by
    rintro (none | ⟨zero, longer⟩)
    · exact digitUnits_ne_nil none
    · exact longer (no_leading_zero zero)
  simp only [magnitudeText, digits, others, if_neg whole, fraction, Option.bind_eq_bind, Option.bind_some, exponent,
    List.append_nil, digitsValue_digitUnits, Option.pure_def, List.length_nil]
  simp

theorem digitsValue_append_zeros {digits zeros : Text} (zero : ∀ unit ∈ zeros, isZero unit = true) :
    digitsValue (digits ++ zeros) = digitsValue digits * 10 ^ zeros.length := by
  induction zeros using List.reverseRecOn with
  | nil => simp
  | append_singleton front last ih =>
    have final : last = 0x30 := by simpa [isZero] using zero last (by simp)
    have others := ih fun unit member => zero unit (List.mem_append_left _ member)
    rw [digitsValue] at others
    rw [digitsValue, ← List.append_assoc, List.foldl_append, others, final, List.length_append, List.length_singleton,
      Nat.pow_succ]
    simp [Nat.mul_assoc]

theorem exists_kept (positive : 0 < value) : ∃ first more zeros, first ≠ 0x30 ∧
    (digitUnits value).rdropWhile isZero = first :: more ∧ digitUnits value = first :: more ++ zeros ∧
      ∀ unit ∈ zeros, isZero unit = true := by
  have split := @List.rdropWhile_append_rtakeWhile _ isZero (digitUnits value)
  have started : (digitUnits value).head? ≠ some 0x30 := by
    intro zero
    obtain ⟨only, whole⟩ := List.length_eq_one_iff.mp (no_leading_zero zero)
    have same := @digitsValue_digitUnits value
    rw [whole] at zero same
    rw [Option.some.inj zero] at same
    exact absurd same (Nat.ne_of_lt positive)
  cases kept : (digitUnits value).rdropWhile isZero with
  | nil =>
    cases digits : digitUnits value with
    | nil => exact absurd digits digitUnits_ne_nil
    | cons first others =>
      have zero := List.rdropWhile_eq_nil_iff.mp kept first (digits ▸ List.mem_cons_self)
      rw [digits, List.head?_cons, eq_of_beq zero] at started
      exact absurd rfl started
  | cons first more =>
    rw [kept] at split
    refine ⟨first, more, _, ?_, rfl, split.symm, fun unit member => List.mem_rtakeWhile_imp member⟩
    rintro rfl
    rw [← split] at started
    exact started rfl

theorem magnitudeText_naturalText (ended : EndsNumber rest) :
    magnitudeText (naturalText value ++ rest) = some ((value : Rat), rest) := by
  unfold naturalText
  split
  · exact magnitudeText_digitUnits ended
  · next large =>
    obtain ⟨first, more, zeros, started, kept, digits, zero⟩ := @exists_kept value (by omega)
    have decimal := @isDigit_digitUnits value
    rw [digits] at decimal
    obtain ⟨exponent, after⟩ := takeWhile_digits (@isDigit_digitUnits ((digitUnits value).length - 1))
      fun unit first => (ended unit first).1
    have power : exponentPart (0x65 :: 0x2B :: (digitUnits ((digitUnits value).length - 1) ++ rest)) =
        some ((((digitUnits value).length - 1 : Nat) : Int), rest) := by
      simp [exponentPart, exponent, after, digitUnits_ne_nil, digitsValue_digitUnits]
    have fraction : ∀ after : Text, fractionPart ((if more = [] then [] else 0x2E :: more) ++ 0x65 :: after) =
        some (more, 0x65 :: after) := by
      intro after
      have ends : ∀ unit ∈ (0x65 :: after).head?, isDigit unit = false := by simp; decide
      obtain ⟨taken, left⟩ := @takeWhile_digits _ more (fun unit member => decimal unit (by simp [member])) ends
      by_cases none : more = []
      · simp [fractionPart, none]
      · rw [if_neg none, List.cons_append, fractionPart, List.head?_cons, if_pos rfl, List.tail_cons, taken, left,
          if_neg none]
    have whole := @takeWhile_digits ((if more = [] then [] else 0x2E :: more) ++
      0x65 :: 0x2B :: (digitUnits ((digitUnits value).length - 1) ++ rest)) [first]
      (fun unit member => decimal unit (by simp [List.mem_singleton.mp member])) (by
        by_cases none : more = [] <;> simp [none] <;> decide)
    -- the digits that count, moved up by the zeros left out
    have scaled : (digitsValue (first :: more) : Rat) *
        10 ^ ((((digitUnits value).length - 1 : Nat) : Int) - more.length) = value := by
      have places : (((digitUnits value).length - 1 : Nat) : Int) - more.length = (zeros.length : Nat) := by
        rw [digits, List.length_append, List.length_cons]
        omega
      have same := @digitsValue_digitUnits value
      rw [digits, digitsValue_append_zeros zero] at same
      rw [places, zpow_natCast, ← same]
      push_cast
      rfl
    rw [List.singleton_append] at whole
    simp only [exponentText, kept, List.cons_append, List.append_assoc]
    simp [magnitudeText, whole, started, fraction, power, scaled]

theorem naturalText_form (value : Nat) : ∃ first others, naturalText value = first :: others ∧ isDigit first = true ∧
    ∀ unit ∈ others, isDigit unit = true ∨ unit = 0x2E ∨ unit = 0x65 ∨ unit = 0x2B := by
  have decimal := @isDigit_digitUnits value
  unfold naturalText
  split
  · cases digits : digitUnits value with
    | nil => exact absurd digits digitUnits_ne_nil
    | cons first others =>
      rw [digits, List.forall_mem_cons] at decimal
      exact ⟨first, others, rfl, decimal.1, fun unit inside => .inl (decimal.2 unit inside)⟩
  · next large =>
    obtain ⟨first, more, zeros, _, kept, digits, _⟩ := @exists_kept value (by omega)
    rw [digits, List.forall_mem_append, List.forall_mem_cons] at decimal
    rw [exponentText, kept]
    refine ⟨first, _, rfl, decimal.1.1, ?_⟩
    intro unit inside
    have exponent := @isDigit_digitUnits ((digitUnits value).length - 1) unit
    have digit := decimal.1.2 unit
    by_cases none : more = [] <;> simp [none] at inside <;> grind

theorem numberText_integerText {number : Int} (ended : EndsNumber rest) :
    numberText (integerText number ++ rest) = some ((number : Rat), rest) := by
  unfold integerText
  split
  · case isTrue negative =>
    have whole : -(number.natAbs : Int) = number := by omega
    have sign : -(number.natAbs : Rat) = number := by
      calc -(number.natAbs : Rat)
        _ = ((-(number.natAbs : Int) : Int) : Rat) := by rw [Int.cast_neg, Int.cast_natCast]
        _ = number := by rw [whole]
    rw [List.cons_append, numberText, List.head?_cons, if_pos rfl, List.tail_cons, magnitudeText_naturalText ended,
      Option.map_some, sign]
  · case isFalse positive =>
    have whole : (number.natAbs : Int) = number := by omega
    have sign : (number.natAbs : Rat) = number := by
      calc (number.natAbs : Rat)
        _ = ((number.natAbs : Int) : Rat) := (Int.cast_natCast _).symm
        _ = number := by rw [whole]
    have unsigned : (naturalText number.natAbs ++ rest).head? ≠ some 0x2D := by
      obtain ⟨first, others, written, digit, _⟩ := naturalText_form number.natAbs
      rw [written, List.cons_append, List.head?_cons]
      intro minus
      rw [Option.some.inj minus] at digit
      cases digit
    rw [numberText, if_neg unsigned, magnitudeText_naturalText ended, sign]

end Numbers

section Parsing

def literals : List (Text × Value) :=
  [(ascii "true", .boolean true), (ascii "false", .boolean false), (ascii "null", .null)]

def literalText (text : Text) : Option (Value × Text) :=
  (literals.find? (·.1.isPrefixOf text)).map fun literal => (literal.2, text.drop literal.1.length)

-- every call of one by another is after a unit was read, or is the first for its bracket
mutual

def readValue : Nat → Text → Option (Value × Text)
  | 0, _ => none
  | fuel + 1, text =>
    match skipSpace text with
    | [] => none
    | unit :: rest =>
      if unit = 0x7B then
        match afterUnit 0x7D rest with
        | some after => some (.object [], after)
        | none => (readMembers fuel rest).map fun read => (.object read.1, read.2)
      else if unit = 0x5B then
        match afterUnit 0x5D rest with
        | some after => some (.array [], after)
        | none => (readItems fuel rest).map fun read => (.array read.1, read.2)
      else if unit = quotation then (stringBody rest).map fun read => (.string read.1, read.2)
      else if unit = 0x2D ∨ isDigit unit then (numberText (unit :: rest)).map fun read => (.number read.1, read.2)
      else literalText (unit :: rest)

def readMembers : Nat → Text → Option (List (Text × Value) × Text)
  | 0, _ => none
  | fuel + 1, text => do
    let opened ← afterUnit quotation text
    let name ← stringBody opened
    let separated ← afterUnit 0x3A name.2
    let value ← readValue fuel separated
    match afterUnit 0x2C value.2 with
    | some more =>
      let others ← readMembers fuel more
      return ((name.1, value.1) :: others.1, others.2)
    | none => (afterUnit 0x7D value.2).map fun after => ([(name.1, value.1)], after)

def readItems : Nat → Text → Option (List Value × Text)
  | 0, _ => none
  | fuel + 1, text => do
    let value ← readValue fuel text
    match afterUnit 0x2C value.2 with
    | some more =>
      let others ← readItems fuel more
      return (value.1 :: others.1, others.2)
    | none => (afterUnit 0x5D value.2).map fun after => ([value.1], after)

end

def parse (text : Text) : Option Value :=
  (readValue (2 * text.length + 2) text).bind fun read => if skipSpace read.2 = [] then some read.1 else none

end Parsing

section Records

/-- The value of a property of a flat record. -/
inductive Plain where
  | string (text : Text)
  | integer (value : Int)

def Plain.value : Plain → Value
  | .string text => .string text
  | .integer value => .number value

def Plain.text : Plain → Text
  | .string text => quoted text
  | .integer value => integerText value

def memberText (member : Text × Plain) : Text := quoted member.1 ++ 0x3A :: member.2.text

def membersText : List (Text × Plain) → Text
  | [] => []
  | [member] => memberText member
  | member :: others => memberText member ++ 0x2C :: membersText others

/-- `JSON.stringify` of a record that holds strings and integers alone. -/
def stringify (members : List (Text × Plain)) : Text := 0x7B :: (membersText members ++ [0x7D])

def parsedMember (member : Text × Plain) : Text × Value := (member.1, member.2.value)

variable {unit other : UInt16} {rest : Text} {fuel : Nat} {plain : Plain} {member : Text × Plain}
  {members : List (Text × Plain)}

theorem afterUnit_cons (visible : isSpace unit = false) : afterUnit unit (unit :: rest) = some rest := by
  rw [afterUnit, skipSpace, List.dropWhile_cons_of_neg (by simp [visible]), List.head?_cons, if_pos rfl, List.tail_cons]

theorem afterUnit_of_ne (visible : isSpace other = false) (differs : other ≠ unit) :
    afterUnit unit (other :: rest) = none := by
  rw [afterUnit, skipSpace, List.dropWhile_cons_of_neg (by simp [visible]), List.head?_cons,
    if_neg fun same => differs (Option.some.inj same)]

theorem visible_of_number (started : unit = 0x2D ∨ isDigit unit = true) :
    isSpace unit = false ∧ unit ≠ 0x7B ∧ unit ≠ 0x5B ∧ unit ≠ quotation := by
  rcases started with rfl | digit
  · decide
  · have differs : ∀ other : UInt16, isDigit other = false → unit ≠ other := by
      rintro other plain rfl
      rw [digit] at plain
      exact absurd plain (by decide)
    refine ⟨?_, differs _ (by decide), differs _ (by decide), differs _ (by decide)⟩
    simp only [isSpace, Bool.or_eq_false_iff, beq_eq_false_iff_ne]
    exact ⟨⟨⟨differs _ (by decide), differs _ (by decide)⟩, differs _ (by decide)⟩, differs _ (by decide)⟩

theorem integerText_start (value : Int) :
    ∃ first others, integerText value = first :: others ∧ (first = 0x2D ∨ isDigit first = true) := by
  unfold integerText
  split
  · exact ⟨_, _, rfl, .inl rfl⟩
  · obtain ⟨first, others, written, digit, _⟩ := naturalText_form value.natAbs
    exact ⟨first, others, written, .inr digit⟩

theorem readValue_plain (ended : EndsNumber rest) :
    readValue (fuel + 1) (plain.text ++ rest) = some (plain.value, rest) := by
  cases plain with
  | string text =>
    have opened : skipSpace (quoted text ++ rest) = quotation :: (quoteBody text ++ quotation :: rest) := by
      rw [quoted, List.cons_append, List.append_assoc]
      exact List.dropWhile_cons_of_neg (by decide)
    rw [Plain.text, readValue, opened]
    simp only [stringBody_quoteBody, Option.map_some, Plain.value, if_pos, if_neg (show quotation ≠ 0x7B by decide),
      if_neg (show quotation ≠ 0x5B by decide)]
  | integer value =>
    obtain ⟨first, others, written, started⟩ := integerText_start value
    obtain ⟨visible, brace, bracket, quote⟩ := visible_of_number started
    have opened : skipSpace (integerText value ++ rest) = first :: (others ++ rest) := by
      rw [written, List.cons_append]
      exact List.dropWhile_cons_of_neg (by simp [visible])
    have number : numberText (first :: (others ++ rest)) = some ((value : Rat), rest) := by
      rw [← List.cons_append, ← written]
      exact numberText_integerText ended
    rw [Plain.text, readValue, opened]
    simp only [if_neg brace, if_neg bracket, if_neg quote, if_pos started, number, Option.map_some, Plain.value]

theorem afterUnit_quoted {text : Text} :
    afterUnit quotation (quoted text ++ rest) = some (quoteBody text ++ quotation :: rest) := by
  rw [quoted, List.cons_append, List.append_assoc]
  exact afterUnit_cons (by decide)

theorem endsNumber_cons (plain : isDigit unit = false ∧ unit ≠ 0x2E ∧ unit ≠ 0x65 ∧ unit ≠ 0x45) :
    EndsNumber (unit :: rest) := by
  intro first same
  obtain rfl : unit = first := Option.some.inj same
  exact plain

theorem readMembers_last :
    readMembers (fuel + 2) (memberText member ++ 0x7D :: rest) = some ([parsedMember member], rest) := by
  rw [memberText, List.append_assoc, readMembers, afterUnit_quoted]
  simp only [Option.bind_eq_bind, Option.bind_some, stringBody_quoteBody, List.cons_append]
  rw [afterUnit_cons (by decide), Option.bind_some, readValue_plain (endsNumber_cons (by decide)), Option.bind_some,
    afterUnit_of_ne (by decide) (by decide), afterUnit_cons (by decide)]
  rfl

theorem readMembers_more :
    readMembers (fuel + 2) (memberText member ++ 0x2C :: rest) =
      (readMembers (fuel + 1) rest).map fun others => (parsedMember member :: others.1, others.2) := by
  rw [memberText, List.append_assoc, readMembers, afterUnit_quoted]
  simp only [Option.bind_eq_bind, Option.bind_some, stringBody_quoteBody, List.cons_append]
  rw [afterUnit_cons (by decide), Option.bind_some, readValue_plain (endsNumber_cons (by decide)), Option.bind_some,
    afterUnit_cons (by decide)]
  dsimp only
  cases readMembers (fuel + 1) rest with
  | none | some => rfl

theorem readMembers_membersText (nonempty : members ≠ []) (enough : members.length < fuel) :
    readMembers fuel (membersText members ++ 0x7D :: rest) = some (members.map parsedMember, rest) := by
  fun_induction membersText members generalizing fuel with
  | case1 => exact absurd rfl nonempty
  | case2 member =>
    obtain ⟨fuel, rfl⟩ := Nat.exists_eq_add_of_lt enough
    have two : [member].length + fuel + 1 = fuel + 2 := by
      rw [List.length_singleton]
      omega
    rw [two, readMembers_last]
    rfl
  | case3 member others several ih =>
    obtain ⟨fuel, rfl⟩ := Nat.exists_eq_add_of_lt enough
    have two : (member :: others).length + fuel + 1 = others.length + fuel + 2 := by
      rw [List.length_cons]
      omega
    have read := @ih (others.length + fuel + 1) several (by omega)
    rw [two, List.append_assoc, List.cons_append, readMembers_more, read]
    rfl

theorem length_membersText : members.length ≤ (membersText members).length := by
  fun_induction membersText members with
  | case1 => exact le_refl _
  | case2 member =>
    simp only [memberText, List.length_append, List.length_cons, List.length_nil]
    omega
  | case3 member others several ih =>
    simp only [List.length_append, List.length_cons]
    omega

theorem readValue_stringify (enough : members.length < fuel) :
    readValue (fuel + 1) (stringify members) = some (.object (members.map parsedMember), []) := by
  have opened : ∀ rest, skipSpace (0x7B :: rest) = 0x7B :: rest := fun rest => List.dropWhile_cons_of_neg (by decide)
  rw [readValue, stringify, opened]
  simp only [if_true]
  cases members with
  | nil => rfl
  | cons member others =>
    have started : ∃ more, membersText (member :: others) = quotation :: more := by
      cases others with
      | nil | cons => exact ⟨_, rfl⟩
    obtain ⟨more, started⟩ := started
    have open_ : afterUnit 0x7D (membersText (member :: others) ++ [0x7D]) = none := by
      rw [started]
      exact afterUnit_of_ne (by decide) (by decide)
    rw [open_, readMembers_membersText (List.cons_ne_nil _ _) enough]
    rfl

theorem parse_stringify : parse (stringify members) = some (.object (members.map parsedMember)) := by
  have enough : members.length < 2 * (stringify members).length + 1 := by
    have long := @length_membersText members
    simp only [stringify, List.length_cons, List.length_append] at long ⊢
    omega
  rw [parse, readValue_stringify enough]
  rfl

theorem wellFormed_integerText (value : Int) : wellFormed (integerText value) = true := by
  have plain : ∀ unit ∈ naturalText value.natAbs, isHighSurrogate unit = false ∧ isLowSurrogate unit = false := by
    obtain ⟨first, others, written, leading, form⟩ := naturalText_form value.natAbs
    rw [written]
    intro unit member
    rcases (List.mem_cons.mp member).elim (fun same => .inl (same ▸ leading)) (form unit) with digit | rfl | rfl | rfl
    · simp only [isDigit, isHighSurrogate, isLowSurrogate, Bool.and_eq_true, decide_eq_true_eq, Bool.and_eq_false_iff,
        decide_eq_false_iff_not] at digit ⊢
      omega
    · decide
    · decide
    · decide
  unfold integerText
  split
  · rw [wellFormed_unit (by decide) (by decide)]
    exact wellFormed_of_plain plain
  · exact wellFormed_of_plain plain

theorem wellFormed_memberText : wellFormed (memberText member) = true := by
  rw [memberText, wellFormed_append wellFormed_quoted, wellFormed_unit (by decide) (by decide)]
  cases member.2 with
  | string text => exact wellFormed_quoted
  | integer value => exact wellFormed_integerText value

theorem wellFormed_membersText : wellFormed (membersText members) = true := by
  fun_induction membersText members with
  | case1 => rfl
  | case2 member => exact wellFormed_memberText
  | case3 member others several ih =>
    rw [wellFormed_append wellFormed_memberText, wellFormed_unit (by decide) (by decide)]
    exact ih

theorem wellFormed_stringify : wellFormed (stringify members) = true := by
  rw [stringify, wellFormed_unit (by decide) (by decide), wellFormed_append wellFormed_membersText]
  rfl

end Records

end LocalCrm.Library.JsonText
