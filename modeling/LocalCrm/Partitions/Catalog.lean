import LocalCrm.Partitions.Tables
import LocalCrm.Library.DecimalText
import LocalCrm.Library.Trim
import LocalCrm.Webhooks.EventRules

/-! Relations as the catalog shows them: a name, a parent, bounds, and the bounds as text.

A child of a partitioned table is looked for by its name, which is made of the parent's and a month's.
-/

set_option autoImplicit false

namespace LocalCrm.Partitions

open Library

structure PartitionedTableConfig where
  parentTable : String
  defaultPartition : String
  deriving DecidableEq, Repr

def partitionedTableConfigs : List PartitionedTableConfig :=
  [{ parentTable := "events", defaultPartition := "events_default" },
    { parentTable := "send_events", defaultPartition := "send_events_default" }]

def momentOf (time : Timestamp) : Int := time * 1000

inductive BoundDatum where
  | minvalue
  | negInfinity
  | moment (moment : Int)
  | infinity
  | maxvalue
  deriving DecidableEq, Repr

inductive PartitionBound where
  | default
  | range (lower upper : BoundDatum)
  deriving DecidableEq, Repr

structure Attachment where
  parent : String
  bound : PartitionBound
  deriving DecidableEq, Repr

structure Relation where
  relname : String
  attachment : Option Attachment := none
  occurredAt : List Timestamp := []
  deriving DecidableEq, Repr

abbrev Catalog := Table Relation.relname

def monthStartUtc (date : Timestamp) (monthsAhead : Int) : Timestamp := utcMonthStart (utcMonth date + monthsAhead)

def utcFullYear (date : Timestamp) : Int := utcMonth date / 12

/-- January is 0. -/
def utcMonthIndex (date : Timestamp) : Int := utcMonth date % 12

def pad (width number : Nat) : String := String.ofList (padded width number)

def monthPartitionName (parentTable : String) (date : Timestamp) : String :=
  parentTable ++ "_" ++ toString (utcFullYear date) ++ "_" ++ pad 2 (utcMonthIndex date + 1).toNat

section Names

@[simp] theorem utcMonth_monthStart (month : Int) : utcMonth (utcMonthStart month) = month := by
  apply inMonth_iff.mp
  unfold inMonth
  have later : utcMonthStart month < utcMonthStart (month + 1) := by
    exact Int.mul_lt_mul_of_pos_right (Calendar.monthStart_lt_succ month) (by decide)
  simp [later]

theorem utcMonthStart_le_iff {first second : Int} : utcMonthStart first ≤ utcMonthStart second ↔ first ≤ second := by
  unfold utcMonthStart
  rw [Int.mul_le_mul_iff_of_pos_right (by decide)]
  exact (strictMono_int_of_lt_succ Calendar.monthStart_lt_succ).le_iff_le

theorem underscore_notMem_toString (number : Int) : '_' ∉ (toString number).toList := by
  cases number with
  | ofNat number =>
    show '_' ∉ (Nat.repr number).toList
    rw [Nat.toList_repr]
    exact Nat.underscore_not_in_toDigits
  | negSucc number =>
    show '_' ∉ ("-" ++ Nat.repr (number + 1)).toList
    rw [String.toList_append, Nat.toList_repr, List.mem_append]
    rintro (sign | digit)
    · simp at sign
    · exact Nat.underscore_not_in_toDigits digit

theorem repr_inj {first second : Nat} (same : Nat.repr first = Nat.repr second) : first = second := by
  have digits := congrArg (fun text => Nat.ofDigitChars 10 text.toList 0) same
  simpa only [Nat.toList_repr, Nat.ofDigitChars_ten_toDigits] using digits

theorem toString_int_inj {first second : Int} (same : toString first = toString second) : first = second := by
  have signless : ∀ left right : Nat, Nat.repr left ≠ "-" ++ Nat.repr right := by
    intro left right equal
    have sign : '-' ∈ (Nat.repr left).toList := by
      rw [equal, String.toList_append]
      exact List.mem_append_left _ (by decide)
    rw [Nat.toList_repr] at sign
    have digit := Nat.isDigit_of_mem_toDigits (by decide) (by decide) sign
    revert digit
    decide
  cases first with
  | ofNat left =>
    cases second with
    | ofNat right => exact congrArg Int.ofNat (repr_inj same)
    | negSucc right => exact absurd same (signless left (right + 1))
  | negSucc left =>
    cases second with
    | ofNat right => exact absurd same.symm (signless right (left + 1))
    | negSucc right =>
      have equal : "-" ++ Nat.repr (left + 1) = "-" ++ Nat.repr (right + 1) := same
      have digits := String.append_right_inj "-" |>.mp equal
      rw [Nat.succ_injective (repr_inj digits)]

theorem split_last {mark : Char} {left right first second : List Char} (clean : mark ∉ first)
    (alsoClean : mark ∉ second) (same : left ++ mark :: first = right ++ mark :: second) :
    left = right ∧ first = second := by
  have reversed := congrArg List.reverse same
  simp only [List.reverse_append, List.reverse_cons, List.append_assoc, List.singleton_append] at reversed
  have parted : ∀ {front back : List Char}, mark ∉ front →
      (front.reverse ++ mark :: back.reverse).takeWhile (· ≠ mark) = front.reverse := by
    intro front back absent
    rw [List.takeWhile_append_of_pos]
    · simp
    · intro char member
      simp only [ne_eq, decide_eq_true_eq]
      rintro rfl
      exact absent (List.mem_reverse.mp member)
  have tails := congrArg (List.takeWhile (· ≠ mark)) reversed
  rw [parted clean, parted alsoClean, List.reverse_inj] at tails
  subst tails
  exact ⟨List.append_cancel_right same, rfl⟩

theorem monthPartitionName_inj {parent other : String} {first second : Int}
    (same : monthPartitionName parent (utcMonthStart first) = monthPartitionName other (utcMonthStart second)) :
    parent = other ∧ first = second := by
  have texts : (parent.toList ++ '_' :: (toString (first / 12)).toList) ++ '_' :: padded 2 (first % 12 + 1).toNat =
      (other.toList ++ '_' :: (toString (second / 12)).toList) ++ '_' :: padded 2 (second % 12 + 1).toNat := by
    simpa [monthPartitionName, utcFullYear, utcMonthIndex, pad] using congrArg String.toList same
  obtain ⟨front, months⟩ := split_last underscore_notMem_padded underscore_notMem_padded texts
  obtain ⟨parents, years⟩ := split_last (underscore_notMem_toString _) (underscore_notMem_toString _) front
  have year := toString_int_inj (String.toList_inj.mp years)
  have month := padded_inj.mp months
  exact ⟨String.toList_inj.mp parents, by omega⟩

end Names

section Text

def microsecondsPerSecond : Int := 1000000

def secondOfDay (moment : Int) : Int := moment / microsecondsPerSecond % 86400

def dayOf (moment : Int) : Int := moment / microsecondsPerSecond / 86400

def fractionOf (moment : Int) : Int := moment % microsecondsPerSecond

def monthIn (moment : Int) : Int := Calendar.monthOf (dayOf moment)

def dayInMonth (moment : Int) : Int := dayOf moment - Calendar.monthStart (monthIn moment) + 1

/-- Years before the first are counted backwards. -/
def yearOfEra (moment : Int) : Int :=
  if 0 < monthIn moment / 12 then monthIn moment / 12 else 1 - monthIn moment / 12

def eraText (moment : Int) : List Char := if 0 < monthIn moment / 12 then [] else " BC".toList

def fractionText (fraction : Int) : List Char :=
  if fraction = 0 then [] else '.' :: (padded 6 fraction.toNat).rdropWhile (· == '0')

/-- How the database writes a `timestamptz` where the zone is UTC. -/
def timestampText (moment : Int) : List Char :=
  padded 4 (yearOfEra moment).toNat ++ '-' :: padded 2 (monthIn moment % 12 + 1).toNat ++
    '-' :: padded 2 (dayInMonth moment).toNat ++ ' ' :: padded 2 (secondOfDay moment / 3600).toNat ++
    ':' :: padded 2 (secondOfDay moment / 60 % 60).toNat ++ ':' :: padded 2 (secondOfDay moment % 60).toNat ++
    fractionText (fractionOf moment) ++ "+00".toList ++ eraText moment

def BoundDatum.text : BoundDatum → List Char
  | .minvalue => "MINVALUE".toList
  | .negInfinity => "'-infinity'".toList
  | .moment time => '\'' :: timestampText time ++ ['\'']
  | .infinity => "'infinity'".toList
  | .maxvalue => "MAXVALUE".toList

/-- `pg_get_expr(c.relpartbound, c.oid)`. -/
def pgGetExpr : PartitionBound → List Char
  | .default => "DEFAULT".toList
  | .range lower upper => "FOR VALUES FROM (".toList ++ lower.text ++ ") TO (".toList ++ upper.text ++ ")".toList

inductive RetentionError where
  | boundLiteral (literal : List Char)
  | boundExpression (expr : List Char)
  | excludedTable (parentTable : String)
  | unsafeIdentifier (identifier context : String)
  | database (message : String)
  deriving DecidableEq, Repr

def RetentionError.message : RetentionError → String
  | .boundLiteral literal =>
    "findExpiredPartitions: could not parse partition bound literal \"" ++ String.ofList literal ++ "\""
  | .boundExpression expr =>
    "findExpiredPartitions: could not parse partition bound expression \"" ++ String.ofList expr ++ "\""
  | .excludedTable parentTable =>
    "findExpiredPartitions: refusing to enumerate \"" ++ parentTable ++ "\" -- it is named in RETENTION_EXCLUDED_TABLES"
  | .unsafeIdentifier identifier context =>
    "dropExpiredPartitions: refusing to interpolate \"" ++ identifier ++ "\" (" ++ context ++
      ") -- its name does not match the identifier shape every real catalog-sourced relation name has"
  | .database message => message

/-- `Date.UTC`, which takes the years 0 to 99 to be of the twentieth century. -/
def dateUtc (year month day hour minute second : Nat) : Int :=
  let fullYear := if year ≤ 99 then 1900 + year else year
  utcMonthStart (12 * fullYear + (month - 1 : Int)) + (day - 1 : Int) * millisecondsPerDay +
    hour * millisecondsPerHour + minute * 60000 + second * 1000

def readTimestamp (text : List Char) : Option (Timestamp × List Char) := do
  let (year, text) ← readDigits 4 text
  let text ← expect ['-'] text
  let (month, text) ← readDigits 2 text
  let text ← expect ['-'] text
  let (day, text) ← readDigits 2 text
  let text ← expect [' '] text
  let (hour, text) ← readDigits 2 text
  let text ← expect [':'] text
  let (minute, text) ← readDigits 2 text
  let text ← expect [':'] text
  let (second, text) ← readDigits 2 text
  let text ← expect "+00".toList text
  return (dateUtc year month day hour minute second, text)

/-- A quote at either end is optional. -/
def openLiteral (literal : List Char) : List Char := if literal.head? = some '\'' then literal.tail else literal

def closeLiteral (literal : List Char) : Option (Timestamp × List Char) → Except RetentionError Timestamp
  | some (time, rest) => if rest = [] ∨ rest = ['\''] then .ok time else .error (.boundLiteral literal)
  | none => .error (.boundLiteral literal)

def parseTimestampBoundLiteral (literal : List Char) : Except RetentionError Timestamp :=
  closeLiteral literal (readTimestamp (openLiteral (trim Webhooks.jsWhitespace literal)))

def matchBound (text : List Char) : Option (List Char × List Char) := do
  let text ← expect "FOR VALUES FROM (".toList text
  let lower := text.takeWhile (· != ')')
  let text ← expect ") TO (".toList (text.dropWhile (· != ')'))
  let upper := text.takeWhile (· != ')')
  let _ ← expect ")".toList (text.dropWhile (· != ')'))
  if lower = [] ∨ upper = [] then none else some (lower, upper)

def parsePartitionBoundExpression (expr : List Char) : Except RetentionError (Timestamp × Timestamp) :=
  match expr.tails.findSome? matchBound with
  | none => .error (.boundExpression expr)
  | some (lower, upper) => do
    let start ← parseTimestampBoundLiteral lower
    let stop ← parseTimestampBoundLiteral upper
    return (start, stop)

theorem dayInMonth_bounds (moment : Int) : 1 ≤ dayInMonth moment ∧ dayInMonth moment < 100 := by
  obtain ⟨started, before⟩ := Calendar.monthOf_spec (dayOf moment)
  have lower := (Calendar.monthStart_bounds (monthIn moment)).1
  have upper := (Calendar.monthStart_bounds (monthIn moment + 1)).2
  unfold dayInMonth
  change Calendar.monthStart (monthIn moment) ≤ dayOf moment at started
  change dayOf moment < Calendar.monthStart (monthIn moment + 1) at before
  omega

theorem secondOfDay_bounds (moment : Int) : 0 ≤ secondOfDay moment ∧ secondOfDay moment < 86400 :=
  ⟨Int.emod_nonneg _ (by decide), Int.emod_lt_of_pos _ (by decide)⟩

theorem expect_zone {fraction : Int} {rest : List Char} :
    expect "+00".toList (fractionText fraction ++ ("+00".toList ++ rest)) =
      if fraction = 0 then some rest else none := by
  unfold fractionText
  split
  · exact expect_append
  · simp [expect]

theorem readTimestamp_fields {year month day hour minute second : Nat} {fraction : Int} {rest : List Char}
    (months : month < 100) (days : day < 100) (hours : hour < 100) (minutes : minute < 100) (seconds : second < 100) :
    readTimestamp (padded 4 year ++ '-' :: (padded 2 month ++ '-' :: (padded 2 day ++ ' ' :: (padded 2 hour ++
      ':' :: (padded 2 minute ++ ':' :: (padded 2 second ++ (fractionText fraction ++ ("+00".toList ++ rest)))))))) =
      if year < 10000 ∧ fraction = 0 then some (dateUtc year month day hour minute second, rest) else none := by
  have mark : ∀ {mark : Char} {rest : List Char}, expect [mark] (mark :: rest) = some rest := fun {_ _} => expect_append
  have two : ∀ {number : Nat} {rest : List Char}, number < 100 →
      readDigits 2 (padded 2 number ++ rest) = some (number, rest) := fun fits => readDigits_padded (by decide) fits
  by_cases fits : year < 10000
  · have four : ∀ {rest : List Char}, readDigits 4 (padded 4 year ++ rest) = some (year, rest) :=
      fun {_} => readDigits_padded (by decide) fits
    unfold readTimestamp
    simp only [four, two months, two days, two hours, two minutes, two seconds, mark, expect_zone, bind,
      Option.bind_some, fits, true_and]
    split <;> rfl
  · rw [if_neg fun both => fits both.1]
    unfold readTimestamp
    generalize remaining : '-' :: (padded 2 month ++ _) = text
    cases read : readDigits 4 (padded 4 year ++ text) with
    | none => rfl
    | some field =>
      obtain ⟨value, left⟩ := field
      have refused : expect ['-'] left = none :=
        expect_after_padded (by decide) (Nat.le_of_not_lt fits) (by decide) read
      simp only [bind, Option.bind_some, refused, Option.bind_none]

theorem trim_quoted (text : List Char) :
    trim Webhooks.jsWhitespace ('\'' :: text ++ ['\'']) = '\'' :: text ++ ['\''] := by
  have visible : ¬ Webhooks.jsWhitespace '\'' = true := by decide
  unfold trim
  rw [List.cons_append, List.dropWhile_cons_of_neg visible, ← List.cons_append,
    List.rdropWhile_concat_neg _ _ _ visible]

/-- The fields of a moment put together again are the moment, or later where the year has two digits. -/
theorem dateUtc_fields {month day second : Int} (positive : 0 < month / 12)
    (days : 1 ≤ day - Calendar.monthStart month + 1) (seconds : 0 ≤ second) :
    day * 86400000 + second * 1000 ≤ dateUtc (month / 12).toNat (month % 12 + 1).toNat
        (day - Calendar.monthStart month + 1).toNat (second / 3600).toNat (second / 60 % 60).toNat (second % 60).toNat ∧
      (1200 ≤ month → day * 86400000 + second * 1000 = dateUtc (month / 12).toNat (month % 12 + 1).toNat
        (day - Calendar.monthStart month + 1).toNat (second / 3600).toNat (second / 60 % 60).toNat
        (second % 60).toNat) := by
  have year : ((month / 12).toNat : Int) = month / 12 := Int.toNat_of_nonneg positive.le
  have index : ((month % 12 + 1).toNat : Int) = month % 12 + 1 := Int.toNat_of_nonneg (by omega)
  have dayField := Int.toNat_of_nonneg (le_trans (by decide) days)
  have hour : ((second / 3600).toNat : Int) = second / 3600 := Int.toNat_of_nonneg (by omega)
  have minute : ((second / 60 % 60).toNat : Int) = second / 60 % 60 := Int.toNat_of_nonneg (by omega)
  have rest : ((second % 60).toNat : Int) = second % 60 := Int.toNat_of_nonneg (by omega)
  unfold dateUtc
  dsimp only
  rw [index, dayField, hour, minute, rest]
  have started : ∀ other, month ≤ other → Calendar.monthStart month * 86400000 ≤ utcMonthStart other := by
    intro other later
    exact utcMonthStart_le_iff.mpr later
  constructor
  · split
    · next short =>
      have later := started (12 * ((1900 + (month / 12).toNat : Nat) : Int) + (month % 12 + 1 - 1)) (by omega)
      simp only [millisecondsPerDay, millisecondsPerHour] at later ⊢
      omega
    · have later := started (12 * (((month / 12).toNat : Nat) : Int) + (month % 12 + 1 - 1)) (by omega)
      simp only [millisecondsPerDay, millisecondsPerHour] at later ⊢
      omega
  · intro recent
    have long : ¬ (month / 12).toNat ≤ 99 := by omega
    have same : 12 * (month / 12) + (month % 12 + 1 - 1) = month := by omega
    rw [if_neg long, year, same]
    simp only [utcMonthStart, millisecondsPerDay, millisecondsPerHour]
    omega

theorem readTimestamp_text {moment : Int} {rest : List Char} :
    readTimestamp (timestampText moment ++ rest) =
      if (yearOfEra moment).toNat < 10000 ∧ fractionOf moment = 0 then
        some (dateUtc (yearOfEra moment).toNat (monthIn moment % 12 + 1).toNat (dayInMonth moment).toNat
          (secondOfDay moment / 3600).toNat (secondOfDay moment / 60 % 60).toNat (secondOfDay moment % 60).toNat,
          eraText moment ++ rest)
      else none := by
  obtain ⟨dayLower, dayUpper⟩ := dayInMonth_bounds moment
  obtain ⟨secondLower, secondUpper⟩ := secondOfDay_bounds moment
  unfold timestampText
  simp only [List.append_assoc, List.cons_append]
  apply readTimestamp_fields <;> omega

theorem parse_moment {moment : Int} {time : Timestamp}
    (parsed : parseTimestampBoundLiteral (BoundDatum.moment moment).text = .ok time) :
    moment ≤ momentOf time ∧ (1200 ≤ monthIn moment → moment = momentOf time) := by
  have text : (BoundDatum.moment moment).text = '\'' :: timestampText moment ++ ['\''] := rfl
  have body : openLiteral ('\'' :: timestampText moment ++ ['\'']) = timestampText moment ++ ['\''] := rfl
  rw [text, parseTimestampBoundLiteral, trim_quoted, body, readTimestamp_text] at parsed
  by_cases readable : (yearOfEra moment).toNat < 10000 ∧ fractionOf moment = 0
  · rw [if_pos readable, closeLiteral] at parsed
    split at parsed
    · next closed =>
      -- an era behind the zone would not be the closing quote
      have positive : 0 < monthIn moment / 12 := by
        by_contra before
        rw [eraText, if_neg before] at closed
        simp at closed
      have year : yearOfEra moment = monthIn moment / 12 := if_pos positive
      have fields := dateUtc_fields positive (dayInMonth_bounds moment).1 (secondOfDay_bounds moment).1
      rw [Except.ok.injEq, year] at parsed
      have whole : fractionOf moment = 0 := readable.2
      have parts : moment = dayOf moment * 86400000000 + secondOfDay moment * 1000000 := by
        simp only [fractionOf, dayOf, secondOfDay, microsecondsPerSecond] at whole ⊢
        omega
      rw [← dayInMonth, parsed] at fields
      obtain ⟨upper, exact_⟩ := fields
      unfold momentOf
      constructor
      · omega
      · intro recent
        omega
    · cases parsed
  · rw [if_neg readable] at parsed
    cases parsed

theorem paren_notMem_padded {width number : Nat} : ')' ∉ padded width number := by
  intro member
  have digit := isDigit_of_mem_padded member
  revert digit
  decide

theorem paren_notMem_fraction {fraction : Int} : ')' ∉ fractionText fraction := by
  unfold fractionText
  split
  · exact List.not_mem_nil
  · rw [List.mem_cons]
    rintro (point | member)
    · revert point
      decide
    · exact paren_notMem_padded ((List.rdropWhile_prefix _ _).subset member)

theorem paren_notMem_timestamp (moment : Int) : ')' ∉ timestampText moment := by
  have zone : ')' ∉ "+00".toList := by decide
  have era : ')' ∉ eraText moment := by
    unfold eraText
    split
    · exact List.not_mem_nil
    · decide
  unfold timestampText
  simp only [List.mem_append, List.mem_cons, paren_notMem_padded, paren_notMem_fraction, zone, era, or_false]
  decide

theorem paren_notMem_text (datum : BoundDatum) : ')' ∉ datum.text := by
  cases datum with
  | moment time =>
    have quote : ')' ≠ '\'' := by decide
    show ')' ∉ '\'' :: timestampText time ++ ['\'']
    simp only [List.mem_append, List.mem_cons, paren_notMem_timestamp, List.not_mem_nil, quote, or_self,
      not_false_eq_true]
  | minvalue | negInfinity | infinity | maxvalue => decide

theorem text_ne_nil (datum : BoundDatum) : datum.text ≠ [] := by
  cases datum with
  | moment time => exact List.cons_ne_nil _ _
  | minvalue | negInfinity | infinity | maxvalue => decide

theorem upTo_paren {text rest : List Char} (clean : ')' ∉ text) :
    (text ++ ')' :: rest).takeWhile (· != ')') = text ∧ (text ++ ')' :: rest).dropWhile (· != ')') = ')' :: rest := by
  have inside : ∀ char ∈ text, (char != ')') = true := by
    intro char member
    rw [bne_iff_ne]
    rintro rfl
    exact clean member
  rw [List.takeWhile_append_of_pos inside, List.dropWhile_append_of_pos inside]
  simp

theorem matchBound_range (lower upper : BoundDatum) :
    matchBound (pgGetExpr (.range lower upper)) = some (lower.text, upper.text) := by
  have written : pgGetExpr (.range lower upper) =
      "FOR VALUES FROM (".toList ++ (lower.text ++ ')' :: (" TO (".toList ++ (upper.text ++ [')']))) := by
    unfold pgGetExpr
    simp
  obtain ⟨lowerTaken, lowerLeft⟩ := @upTo_paren _ (" TO (".toList ++ (upper.text ++ [')'])) (paren_notMem_text lower)
  obtain ⟨upperTaken, upperLeft⟩ := @upTo_paren _ [] (paren_notMem_text upper)
  have between : expect ") TO (".toList (')' :: (" TO (".toList ++ (upper.text ++ [')']))) =
      some (upper.text ++ [')']) :=
    @expect_append (upper.text ++ [')']) ") TO (".toList
  have closed : expect ")".toList [')'] = some [] := rfl
  unfold matchBound
  rw [written]
  simp only [expect_append, bind, Option.bind_some, lowerTaken, lowerLeft, between, upperTaken, upperLeft, closed,
    text_ne_nil, or_self, if_false]

theorem findSome?_tails {Item Found : Type} {text : List Item} {find : List Item → Option Found} {found : Found}
    (here : find text = some found) : text.tails.findSome? find = some found := by
  cases text <;> simp [here]

theorem moment_of_parsed {datum : BoundDatum} {time : Timestamp}
    (parsed : parseTimestampBoundLiteral datum.text = .ok time) : ∃ moment, datum = .moment moment := by
  cases datum with
  | moment time => exact ⟨time, rfl⟩
  | minvalue | negInfinity | infinity | maxvalue => cases parsed

theorem parse_bound {bound : PartitionBound} {start stop : Timestamp}
    (parsed : parsePartitionBoundExpression (pgGetExpr bound) = .ok (start, stop)) :
    ∃ lower upper, bound = .range (.moment lower) (.moment upper) ∧ upper ≤ momentOf stop ∧
      (1200 ≤ monthIn lower → lower = momentOf start) ∧ (1200 ≤ monthIn upper → upper = momentOf stop) := by
  cases bound with
  | default => cases parsed
  | range lower upper =>
    unfold parsePartitionBoundExpression at parsed
    rw [findSome?_tails (matchBound_range lower upper)] at parsed
    dsimp only at parsed
    cases first : parseTimestampBoundLiteral lower.text with
    | error failure =>
      rw [first] at parsed
      cases parsed
    | ok begins =>
      cases second : parseTimestampBoundLiteral upper.text with
      | error failure =>
        rw [first, second] at parsed
        cases parsed
      | ok ends =>
        rw [first, second] at parsed
        cases parsed
        obtain ⟨earlier, rfl⟩ := moment_of_parsed first
        obtain ⟨later, rfl⟩ := moment_of_parsed second
        exact ⟨earlier, later, rfl, (parse_moment second).1, (parse_moment first).2, (parse_moment second).2⟩

end Text

end LocalCrm.Partitions
