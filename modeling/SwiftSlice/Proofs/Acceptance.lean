/-
What configuration data are accepted. The rule is written down as a relation
between fields and settings: every field is known, a field that is given stands for
the setting it has to stand for, and one that is not given leaves the default.
Checking data gives a configuration exactly if the relation holds of the two.

One rule is wider than it is meant to be. The names of types and modules are asked
to be identifiers, and a line feed behind an identifier goes through as well. Where
no name in the lists ends in a line feed, all of them are identifiers.
-/

import Mathlib.Algebra.Order.Ring.Nat
import Mathlib.Data.List.Forall2
import SwiftSlice.Config
import SwiftSlice.Proofs.Walk

namespace SwiftSlice

open Text

/-! ### Whole numbers -/

namespace Text.Binary64

variable {number : Binary64}

/-- The three parts of the bits make them up. -/
theorem toNat_bits (number : Binary64) : number.bits.toNat =
    (if number.isNegative then 2 ^ 63 else 0) + number.biased * 2 ^ 52 + number.fraction := by
  have small := number.bits.toNat_lt
  simp only [isNegative, biased, fraction, Nat.pow_eq, beq_iff_eq]
  split <;> omega

theorem fraction_lt (number : Binary64) : number.fraction < 2 ^ 52 :=
  Nat.mod_lt _ (Nat.two_pow_pos 52)

/-- A number is subnormal, or its significand has a leading one. -/
theorem significand_cases (number : Binary64) :
    number.biased = 0 ∧ number.significand = number.fraction ∧ number.exponent = -1074 ∨
      0 < number.biased ∧ number.significand = number.fraction + 2 ^ 52 ∧
        number.exponent = number.biased - 1075 := by
  rw [significand, exponent]
  by_cases subnormal : number.biased = 0
  · rw [if_pos (beq_iff_eq.2 subnormal), if_pos (beq_iff_eq.2 subnormal)]
    exact .inl ⟨subnormal, rfl, rfl⟩
  · rw [if_neg (mt beq_iff_eq.1 subnormal), if_neg (mt beq_iff_eq.1 subnormal)]
    exact .inr ⟨Nat.pos_of_ne_zero subnormal, rfl, rfl⟩

/-- A whole number is its significand, scaled by its exponent, with its sign. -/
theorem scaled_of_toInt? {value : Int} (whole : number.toInt? = some value) :
    value.natAbs * 2 ^ (-number.exponent).toNat = number.significand * 2 ^ number.exponent.toNat ∧
      (number.isNegative = true → value ≤ 0) := by
  rw [toInt?] at whole
  split at whole
  · cases whole
  obtain ⟨magnitude, isMagnitude, isValue⟩ := Option.map_eq_some_iff.1 whole
  obtain ⟨natural, isNatural, isInteger⟩ := Option.bind_eq_some_iff.1 isMagnitude
  obtain rfl : (natural : Int) = magnitude := Option.some.inj isInteger
  have signed : value.natAbs = natural ∧ (number.isNegative = true → value ≤ 0) := by
    split at isValue
    · exact ⟨by omega, fun _ => by omega⟩
    · next positive => exact ⟨by omega, fun isNegative => absurd isNegative positive⟩
  refine ⟨?_, signed.2⟩
  rw [signed.1]
  dsimp only at isNatural
  split at isNatural
  · next large =>
    have noUnit : (-number.exponent).toNat = 0 := by omega
    rw [← Option.some.inj isNatural, noUnit, pow_zero, mul_one]
    rfl
  · next small =>
    have noScale : number.exponent.toNat = 0 := by omega
    rw [noScale, pow_zero, mul_one]
    split at isNatural
    · next divides =>
      rw [← Option.some.inj isNatural]
      exact Nat.div_mul_cancel (Nat.dvd_of_mod_eq_zero (eq_of_beq divides))
    · cases isNatural

/-- Two numbers are zero, one with a sign and one without. -/
theorem toInt?_eq_zero_iff :
    number.toInt? = some 0 ↔ number = ⟨0⟩ ∨ number = ⟨0x8000000000000000⟩ := by
  constructor
  · intro whole
    have scaled := (scaled_of_toInt? whole).1
    have nothing : number.significand = 0 := by
      rw [Int.natAbs_zero, zero_mul] at scaled
      exact (Nat.mul_eq_zero.1 scaled.symm).resolve_right (Nat.two_pow_pos _).ne'
    obtain ⟨subnormal, isFraction, _⟩ | ⟨_, isLarge, _⟩ := significand_cases number
    · have isBits := toNat_bits number
      rw [subnormal, ← isFraction, nothing] at isBits
      obtain ⟨bits⟩ := number
      rw [mk.injEq, mk.injEq, ← UInt64.toNat_inj, ← UInt64.toNat_inj]
      split at isBits
      · exact .inr isBits
      · exact .inl isBits
    · omega
  · rintro (rfl | rfl) <;> decide +kernel

/-- One number is one. -/
theorem toInt?_eq_one_iff : number.toInt? = some 1 ↔ number = ⟨0x3FF0000000000000⟩ := by
  constructor
  · intro whole
    obtain ⟨scaled, signed⟩ := scaled_of_toInt? whole
    have positive : ¬ number.isNegative = true :=
      fun isNegative => absurd (signed isNegative) (by decide)
    have isBits := toNat_bits number
    have isSmall := fraction_lt number
    rw [if_neg positive] at isBits
    rw [Int.natAbs_one, one_mul] at scaled
    obtain ⟨_, isFraction, isExponent⟩ | ⟨_, isLarge, isExponent⟩ := significand_cases number
    · have tiny : 2 ^ 52 < 2 ^ (-number.exponent).toNat :=
        Nat.pow_lt_pow_right (by decide) (by rw [isExponent]; decide)
      have noScale : number.exponent.toNat = 0 := by omega
      rw [noScale, isFraction, pow_zero, mul_one] at scaled
      omega
    · rw [isExponent, isLarge] at scaled
      have scale : number.biased < 1075 := by
        by_contra large
        have noUnit : (-((number.biased : Int) - 1075)).toNat = 0 := by omega
        rw [noUnit, pow_zero] at scaled
        have := Nat.eq_one_of_mul_eq_one_right scaled.symm
        omega
      have noScale : ((number.biased : Int) - 1075).toNat = 0 := by omega
      have isUnit : (-((number.biased : Int) - 1075)).toNat = 1075 - number.biased := by omega
      rw [noScale, isUnit, pow_zero, mul_one] at scaled
      -- The significand is a power of two with 53 binary digits, so it is the least of them.
      have lower : 52 ≤ 1075 - number.biased :=
        (Nat.pow_le_pow_iff_right (a := 2) (by decide)).1 (by omega)
      have upper : 1075 - number.biased < 53 :=
        (Nat.pow_lt_pow_iff_right (a := 2) (by decide)).1 (by omega)
      have isBiased : number.biased = 1023 := by omega
      rw [isBiased] at scaled isBits
      obtain ⟨bits⟩ := number
      rw [mk.injEq, ← UInt64.toNat_inj, isBits]
      show _ = 0x3FF0000000000000
      omega
  · rintro rfl
    decide +kernel

end Text.Binary64

/-! ### Checks that accept -/

namespace Checked

variable {α β : Type}

theorem seq_eq_accepted_iff {first : Checked (α → β)} {second : Checked α} {value : β} :
    first <*> second = .accepted value ↔
      ∃ function argument, first = .accepted function ∧ second = .accepted argument ∧
        function argument = value := by
  show first.seq second = .accepted value ↔ _
  cases first <;> cases second <;> simp [seq]

theorem map_eq_accepted_iff {function : α → β} {check : Checked α} {value : β} :
    function <$> check = .accepted value ↔
      ∃ argument, check = .accepted argument ∧ function argument = value := by
  show (Checked.accepted function).seq check = .accepted value ↔ _
  cases check <;> simp [seq]

theorem under_eq_accepted_iff {step : FieldStep} {check : Checked α} {value : α} :
    check.under step = .accepted value ↔ check = .accepted value := by
  cases check <;> simp [under]

end Checked

/-! ### Single settings -/

/-- The words for a truth value that does not hold. -/
def falseWords : List String := ["0", "off", "f", "false", "n", "no"]

/-- The words for a truth value that holds. -/
def trueWords : List String := ["1", "on", "t", "true", "y", "yes"]

/-- Holds of a text and a word that are the same but for the case of ASCII letters. -/
def IsCaseOf (text word : String) : Prop :=
  text.toList.map Char.toLower = word.toList

/-- Holds of some data and the truth value that they stand for: a truth value itself, a word for one
in any case, or a number that is zero or one. -/
inductive StandsForTruth : Data → Bool → Prop
  | value (value : Bool) : StandsForTruth (.bool value) value
  | off {text word : String} (listed : word ∈ falseWords) (spelled : IsCaseOf text word) :
      StandsForTruth (.string text) false
  | on {text word : String} (listed : word ∈ trueWords) (spelled : IsCaseOf text word) :
      StandsForTruth (.string text) true
  | zero : StandsForTruth (.int 0) false
  | one : StandsForTruth (.int 1) true
  | floatZero : StandsForTruth (.float ⟨0⟩) false
  | negativeZero : StandsForTruth (.float ⟨0x8000000000000000⟩) false
  | floatOne : StandsForTruth (.float ⟨0x3FF0000000000000⟩) true

/-- A text is a word for a truth value exactly if it is listed as one. -/
theorem lookup_boolTexts_iff (text : String) (value : Bool) :
    Data.boolTexts.lookup (String.ofList (text.toList.map Char.toLower)) = some value ↔
      ∃ word ∈ (if value then trueWords else falseWords), IsCaseOf text word := by
  have listed : Data.boolTexts =
      falseWords.map (fun word => (word, false)) ++ trueWords.map fun word => (word, true) := rfl
  have isWord (word : String) :
      word = String.ofList (text.toList.map Char.toLower) ↔ IsCaseOf text word := by
    rw [IsCaseOf, ← String.toList_inj, String.toList_ofList, eq_comm]
  rw [FileTree.lookup_eq_some_iff_mem _ _ _ (by decide), listed, List.mem_append, List.mem_map,
    List.mem_map]
  cases value <;> simp [isWord]

theorem wordOfFloat?_eq_some_iff {number : Binary64} {value : Int}
    (isSmall : value = 0 ∨ value = 1) :
    Data.wordOfFloat? number = some value ↔ number.toInt? = some value := by
  rw [Data.wordOfFloat?, Option.filter_eq_some_iff]
  refine and_iff_left_of_imp fun _ => ?_
  rcases isSmall with rfl | rfl <;> decide

theorem boolOfInt?_eq_some_iff (number : Int) (value : Bool) :
    Data.boolOfInt? number = some value ↔ number = if value then 1 else 0 := by
  rw [Data.boolOfInt?]
  cases value <;> grind

theorem bool?_eq_some_iff (data : Data) (value : Bool) :
    data.bool? = some (some value) ↔ StandsForTruth data value := by
  constructor
  · intro stands
    cases data with
    | bool given =>
      obtain rfl := Option.some.inj (Option.some.inj stands)
      exact .value given
    | string text =>
      obtain ⟨word, listed, spelled⟩ := (lookup_boolTexts_iff text value).1 (Option.some.inj stands)
      cases value with
      | false => exact .off listed spelled
      | true => exact .on listed spelled
    | int number =>
      rw [Data.bool?] at stands
      split at stands
      · obtain rfl := (boolOfInt?_eq_some_iff number value).1 (Option.some.inj stands)
        cases value with
        | false => exact .zero
        | true => exact .one
      · cases stands
    | float number =>
      obtain ⟨whole, isWhole, stands⟩ := Option.map_eq_some_iff.1 stands
      obtain rfl := (boolOfInt?_eq_some_iff whole value).1 stands
      cases value with
      | false =>
        have isZero := (wordOfFloat?_eq_some_iff (.inl rfl)).1 isWhole
        obtain rfl | rfl := Binary64.toInt?_eq_zero_iff.1 isZero
        · exact .floatZero
        · exact .negativeZero
      | true =>
        have isOne := (wordOfFloat?_eq_some_iff (.inr rfl)).1 isWhole
        obtain rfl := Binary64.toInt?_eq_one_iff.1 isOne
        exact .floatOne
    | null => cases stands
    | moment _ => cases stands
    | list _ => cases stands
    | object _ => cases stands
  · intro stands
    cases stands with
    | value => rfl
    | off listed spelled => exact congrArg some ((lookup_boolTexts_iff _ _).2 ⟨_, listed, spelled⟩)
    | on listed spelled => exact congrArg some ((lookup_boolTexts_iff _ _).2 ⟨_, listed, spelled⟩)
    | zero => rfl
    | one => rfl
    | floatZero => decide +kernel
    | negativeZero => decide +kernel
    | floatOne => decide +kernel

/-- Some data are accepted as a truth value exactly if they stand for it. -/
theorem asBool_eq_accepted_iff (data : Data) (value : Bool) :
    data.asBool = .accepted value ↔ StandsForTruth data value := by
  rw [← bool?_eq_some_iff, Data.asBool]
  rcases data.bool? with _ | _ | found <;> simp [Checked.refuse]

/-! ### Lists of settings -/

theorem checkItems_eq_accepted_iff {α : Type} {check : Data → Checked α} {position : Nat}
    {items : List Data} {values : List α} :
    Data.checkItems check position items = .accepted values ↔
      List.Forall₂ (fun item value => check item = .accepted value) items values := by
  induction items generalizing position values with
  | nil =>
    rw [Data.checkItems, List.forall₂_nil_left_iff, Checked.accepted.injEq, eq_comm]
  | cons item rest inductionHypothesis =>
    rw [Data.checkItems, Checked.seq_eq_accepted_iff]
    simp only [Checked.map_eq_accepted_iff, Checked.under_eq_accepted_iff, inductionHypothesis,
      List.forall₂_cons_left_iff]
    constructor
    · rintro ⟨_, others, ⟨value, accepted, rfl⟩, further, rfl⟩
      exact ⟨value, others, accepted, further, rfl⟩
    · rintro ⟨value, others, accepted, further, rfl⟩
      exact ⟨_, others, ⟨value, accepted, rfl⟩, further, rfl⟩

theorem asString_eq_accepted_iff {data : Data} {text : String} :
    data.asString = .accepted text ↔ data = .string text := by
  cases data <;> simp [Data.asString, Checked.refuse]

/-- Holds of a list of texts, as data, and the texts in it. -/
def IsTextList (data : Data) (texts : List String) : Prop :=
  data = .list (texts.map .string)

theorem asListOf_asString_eq_accepted_iff {data : Data} {texts : List String} :
    data.asListOf Data.asString = .accepted texts ↔ IsTextList data texts := by
  cases data with
  | list items =>
    rw [Data.asListOf, checkItems_eq_accepted_iff, IsTextList, Data.list.injEq]
    simp only [asString_eq_accepted_iff]
    rw [← List.forall₂_map_right_iff (R := fun item other => item = other), List.forall₂_eq_eq_eq]
  | _ => simp [Data.asListOf, Checked.refuse, IsTextList]

/-! ### Identifiers -/

/-- Holds of a text that is an identifier as a whole: a letter of ASCII or an underscore, with
letters, digits and underscores behind it. -/
def IsIdentifier (text : String) : Prop :=
  ∃ first rest, text.toList = first :: rest ∧ (first.isAlpha = true ∨ first = '_') ∧
    ∀ char ∈ rest, char.isAlphanum = true ∨ char = '_'

/-- Holds of an identifier, be it with a line feed behind it. -/
def IsIdentifierLine (text : String) : Prop :=
  IsIdentifier text ∨ ∃ name, IsIdentifier name ∧ text = name ++ "\n"

theorem isAsciiWord_iff (char : Char) :
    isAsciiWord char = true ↔ char.isAlphanum = true ∨ char = '_' := by
  rw [isAsciiWord, Bool.or_eq_true, beq_iff_eq]

theorem isIdentifier_iff (text : String) :
    Config.isIdentifier text = true ↔ IsIdentifierLine text := by
  rw [Config.isIdentifier]
  constructor
  · intro accepted
    split at accepted
    · cases accepted
    · next first rest isText =>
      obtain ⟨starts, words⟩ := Bool.and_eq_true_iff.1 accepted
      rw [isAsciiWordStart, Bool.or_eq_true, beq_iff_eq] at starts
      rw [List.all_eq_true] at words
      split at words
      · next endsLine =>
        obtain ⟨front, isRest⟩ := List.getLast?_eq_some_iff.1 endsLine
        rw [isRest, List.dropLast_concat] at words
        refine .inr ⟨String.ofList (first :: front), ⟨first, front, String.toList_ofList, starts,
          fun char member => (isAsciiWord_iff char).1 (words char member)⟩, ?_⟩
        rw [← String.toList_inj, String.toList_append, String.toList_ofList, isText, isRest]
        rfl
      · exact .inl ⟨first, rest, isText, starts,
          fun char member => (isAsciiWord_iff char).1 (words char member)⟩
  · rintro (⟨first, rest, isText, starts, words⟩ |
      ⟨name, ⟨first, rest, isName, starts, words⟩, rfl⟩)
    · have noLine : rest.getLast? ≠ some '\n' := fun endsLine =>
        absurd (words _ (List.mem_of_getLast? endsLine)) (by decide)
      rw [isText]
      dsimp only
      rw [if_neg noLine, Bool.and_eq_true, List.all_eq_true, isAsciiWordStart, Bool.or_eq_true,
        beq_iff_eq]
      exact ⟨starts, fun char member => (isAsciiWord_iff char).2 (words char member)⟩
    · have isText : (name ++ "\n").toList = first :: (rest ++ ['\n']) := by
        rw [String.toList_append, isName]
        rfl
      rw [isText]
      dsimp only
      rw [if_pos List.getLast?_concat, List.dropLast_concat, Bool.and_eq_true, List.all_eq_true,
        isAsciiWordStart, Bool.or_eq_true, beq_iff_eq]
      exact ⟨starts, fun char member => (isAsciiWord_iff char).2 (words char member)⟩

/-- An identifier does not end in a line feed. -/
theorem IsIdentifier.not_line {text : String} (isIdentifier : IsIdentifier text) :
    text.toList.getLast? ≠ some '\n' := by
  obtain ⟨first, rest, isText, starts, words⟩ := isIdentifier
  rw [isText]
  intro endsLine
  rcases List.mem_cons.1 (List.mem_of_getLast? endsLine) with isFirst | inRest
  · rw [← isFirst] at starts
    exact absurd starts (by decide)
  · exact absurd (words _ inRest) (by decide)

/-- What is accepted as an identifier is one unless it ends in a line feed. -/
theorem isIdentifier_iff_of_line {text : String} :
    IsIdentifier text ↔ IsIdentifierLine text ∧ text.toList.getLast? ≠ some '\n' := by
  constructor
  · exact fun isIdentifier => ⟨.inl isIdentifier, isIdentifier.not_line⟩
  · rintro ⟨isIdentifier | ⟨name, _, rfl⟩, noLine⟩
    · exact isIdentifier
    · rw [String.toList_append] at noLine
      exact absurd List.getLast?_concat noLine

/-- Holds of nothing, or of a list of names, as data, and the names in it. -/
def IsNameList (IsName : String → Prop) (data : Data) (names : List String) : Prop :=
  data = .null ∧ names = [] ∨ IsTextList data names ∧ ∀ name ∈ names, IsName name

theorem identifier?_eq_some_iff {data : Data} {name : String} :
    Config.identifier? data = some name ↔ data = .string name ∧ IsIdentifierLine name := by
  rw [← isIdentifier_iff]
  cases data with
  | string text =>
    rw [Config.identifier?, Option.ite_none_right_eq_some, Option.some_inj, Data.string.injEq]
    constructor
    · rintro ⟨isIdentifier, rfl⟩
      exact ⟨rfl, isIdentifier⟩
    · rintro ⟨rfl, isIdentifier⟩
      exact ⟨isIdentifier, rfl⟩
  | _ => simp [Config.identifier?]

/-- The items of a list are all identifiers exactly if the list is one of names. -/
theorem filterMap_identifier?_iff {items : List Data} {names : List String} :
    (∀ item ∈ items, (Config.identifier? item).isSome = true) ∧
        items.filterMap Config.identifier? = names ↔
      IsTextList (.list items) names ∧ ∀ name ∈ names, IsIdentifierLine name := by
  rw [IsTextList, Data.list.injEq]
  constructor
  · rintro ⟨readable, rfl⟩
    refine ⟨?_, fun name member => ?_⟩
    · have same (item : Data) (member : item ∈ items) :
          (Config.identifier? item).map Data.string = some item := by
        obtain ⟨name, isName⟩ := Option.isSome_iff_exists.1 (readable item member)
        rw [isName, (identifier?_eq_some_iff.1 isName).1]
        rfl
      rw [List.map_filterMap, List.filterMap_congr same, List.filterMap_some]
    · obtain ⟨item, _, isName⟩ := List.mem_filterMap.1 member
      exact (identifier?_eq_some_iff.1 isName).2
  · rintro ⟨rfl, identifiers⟩
    have same (name : String) (member : name ∈ names) :
        Config.identifier? (.string name) = some name :=
      identifier?_eq_some_iff.2 ⟨rfl, identifiers name member⟩
    refine ⟨fun item member => ?_, ?_⟩
    · obtain ⟨name, inNames, rfl⟩ := List.mem_map.1 member
      rw [same name inNames]
      rfl
    · rw [List.filterMap_map]
      exact (List.filterMap_congr same).trans List.filterMap_some

theorem asIdentifiers_eq_accepted_iff {data : Data} {names : List String} :
    Config.asIdentifiers data = .accepted names ↔ IsNameList IsIdentifierLine data names := by
  cases data with
  | null => simp [Config.asIdentifiers, IsNameList, IsTextList, eq_comm]
  | list items =>
    rw [IsNameList, or_iff_right (by simp), ← filterMap_identifier?_iff, Config.asIdentifiers]
    split
    · next item found =>
      refine iff_of_false (by simp [Checked.refuse]) fun ⟨readable, _⟩ => ?_
      have unreadable := List.find?_some found
      rw [Option.isNone_iff_eq_none] at unreadable
      have isSome := readable item (List.mem_of_find?_eq_some found)
      rw [unreadable] at isSome
      cases isSome
    · next noneFound =>
      rw [Checked.accepted.injEq]
      refine (and_iff_right fun item member => ?_).symm
      simpa [Option.isSome_iff_ne_none] using List.find?_eq_none.1 noneFound item member
  | _ => simp [Config.asIdentifiers, Checked.refuse, IsNameList, IsTextList]

/-- What stands for a list of names is not refused at once. -/
theorem IsNameList.isNoIdentifierList {IsName : String → Prop} {data : Data} {names : List String}
    (isList : IsNameList IsName data names) : Config.isNoIdentifierList data = false := by
  rcases isList with ⟨rfl, _⟩ | ⟨rfl, _⟩ <;> rfl

/-- A list of what is accepted as identifiers is one of identifiers if none ends in a line feed. -/
theorem isNameList_identifiers_iff {data : Data} {names : List String} :
    IsNameList IsIdentifier data names ↔ IsNameList IsIdentifierLine data names ∧
      ∀ name ∈ names, name.toList.getLast? ≠ some '\n' := by
  simp only [IsNameList, isIdentifier_iff_of_line, forall_and, or_and_right, and_assoc]
  refine or_congr_left (and_congr_right fun _ => (and_iff_left_of_imp ?_).symm)
  rintro rfl
  simp

/-! ### Configurations -/

/-- Holds of a setting that the field with a name stands for, or that is the default if there is no
such field. -/
def Settles {α : Type} (fields : List (String × Data)) (name : String) (default : α)
    (StandsFor : Data → α → Prop) (value : α) : Prop :=
  match fields.lookup name with
  | some data => StandsFor data value
  | none => value = default

theorem optional_eq_accepted_iff {α : Type} {fields : List (String × Data)} {name : String}
    {default value : α} {check : Data → Checked α} {StandsFor : Data → α → Prop}
    (accepts : ∀ data value, check data = .accepted value ↔ StandsFor data value) :
    Data.optional fields name default check = .accepted value ↔
      Settles fields name default StandsFor value := by
  rw [Data.optional, Settles]
  cases fields.lookup name with
  | some data =>
    dsimp only
    rw [Checked.under_eq_accepted_iff, accepts]
  | none => rw [Checked.accepted.injEq, eq_comm]

/-- Holds of a configuration and the fields that it is given by: no field is unknown, and each
setting is the one that its field stands for. The lists of identifiers hold names of a sort. -/
structure Config.IsGivenBy (IsName : String → Prop) (config : Config)
    (fields : List (String × Data)) : Prop where
  known : ∀ field ∈ fields, field.1 ∈ ["output_dir", "include", "exclude", "nested_gitignore",
    "extra_builtin_types", "testable_modules"]
  outputDir : Settles fields "output_dir" ".previewslice" (fun data text => data = .string text)
    config.outputDir
  includePatterns : Settles fields "include" [] IsTextList config.includePatterns
  excludePatterns : Settles fields "exclude" [] IsTextList config.excludePatterns
  nestedGitignore : Settles fields "nested_gitignore" false StandsForTruth config.nestedGitignore
  extraBuiltinTypes : Settles fields "extra_builtin_types" [] (IsNameList IsName)
    config.extraBuiltinTypes
  testableModules : Settles fields "testable_modules" [] (IsNameList IsName) config.testableModules

theorem unknownFields_eq_accepted_iff {fields : List (String × Data)} {value : Unit} :
    Config.unknownFields fields = .accepted value ↔
      ∀ field ∈ fields, field.1 ∈ Config.fieldNames := by
  rw [Config.unknownFields]
  split
  · next nothing => simpa using nothing
  · next something =>
    refine iff_of_false (by simp) fun all => something ?_
    exact List.filter_eq_nil_iff.2 fun field member => by simpa using all field member

/-- Fields are accepted exactly if they give a configuration, which is the one that is then
given. -/
theorem ofFields_eq_accepted_iff {fields : List (String × Data)} {config : Config} :
    Config.ofFields fields = .accepted config ↔ config.IsGivenBy IsIdentifierLine fields := by
  simp only [Config.ofFields, Checked.seq_eq_accepted_iff, Checked.map_eq_accepted_iff,
    unknownFields_eq_accepted_iff, optional_eq_accepted_iff fun _ _ => asString_eq_accepted_iff,
    optional_eq_accepted_iff fun _ _ => asListOf_asString_eq_accepted_iff,
    optional_eq_accepted_iff asBool_eq_accepted_iff,
    optional_eq_accepted_iff fun _ _ => asIdentifiers_eq_accepted_iff, ↓existsAndEq, and_true,
    exists_and_left, and_assoc]
  constructor
  · rintro ⟨_, isOutput, _, isInclude, _, isExclude, _, isNested, _, isExtra, _, isTestable, known,
      _, rfl⟩
    exact ⟨known, isOutput, isInclude, isExclude, isNested, isExtra, isTestable⟩
  · intro given
    exact ⟨_, given.outputDir, _, given.includePatterns, _, given.excludePatterns, _,
      given.nestedGitignore, _, given.extraBuiltinTypes, _, given.testableModules, given.known, (),
      rfl⟩

/-- A field that stands for a list of names is not refused at once. -/
theorem Settles.isNoIdentifierList {IsName : String → Prop} {fields : List (String × Data)}
    {name : String} {names : List String}
    (settles : Settles fields name [] (IsNameList IsName) names) {data : Data}
    (found : fields.lookup name = some data) : Config.isNoIdentifierList data = false := by
  rw [Settles, found] at settles
  exact IsNameList.isNoIdentifierList settles

theorem ofData_eq_ok_iff {data : Data} {config : Config} :
    Config.ofData data = .ok config ↔
      ∃ fields, data = .object fields ∧ config.IsGivenBy IsIdentifierLine fields := by
  cases data with
  | object fields =>
    simp only [Data.object.injEq, exists_eq_left', ← ofFields_eq_accepted_iff]
    rw [Config.ofData]
    split
    · next refused =>
      refine iff_of_false (by simp) fun accepted => ?_
      have given := ofFields_eq_accepted_iff.1 accepted
      obtain ⟨data, inLists, isNone⟩ := List.any_eq_true.1 refused
      obtain ⟨name, isName, found⟩ := List.mem_filterMap.1 inLists
      refine Bool.false_ne_true (Eq.trans ?_ isNone)
      rcases List.mem_pair.1 isName with rfl | rfl
      · exact (given.extraBuiltinTypes.isNoIdentifierList found).symm
      · exact (given.testableModules.isNoIdentifierList found).symm
    · cases Config.ofFields fields <;> simp
  | _ => simp [Config.ofData]

theorem settles_identifiers_iff {fields : List (String × Data)} {field : String}
    {names : List String} :
    Settles fields field [] (IsNameList IsIdentifier) names ↔
      Settles fields field [] (IsNameList IsIdentifierLine) names ∧
        ∀ name ∈ names, name.toList.getLast? ≠ some '\n' := by
  rw [Settles, Settles]
  cases fields.lookup field with
  | some data => exact isNameList_identifiers_iff
  | none =>
    refine (and_iff_left_of_imp ?_).symm
    rintro rfl
    simp

/-- A configuration is given by identifiers exactly if it is given by what is accepted as such and
none of the names ends in a line feed. -/
theorem isGivenBy_identifiers_iff {fields : List (String × Data)} {config : Config} :
    config.IsGivenBy IsIdentifier fields ↔ config.IsGivenBy IsIdentifierLine fields ∧
      ∀ name ∈ config.extraBuiltinTypes ++ config.testableModules,
        name.toList.getLast? ≠ some '\n' := by
  rw [List.forall_mem_append]
  constructor
  · intro given
    obtain ⟨isExtra, extra⟩ := settles_identifiers_iff.1 given.extraBuiltinTypes
    obtain ⟨isTestable, testable⟩ := settles_identifiers_iff.1 given.testableModules
    exact ⟨{ given with extraBuiltinTypes := isExtra, testableModules := isTestable },
      extra, testable⟩
  · rintro ⟨given, extra, testable⟩
    exact { given with
      extraBuiltinTypes := settles_identifiers_iff.2 ⟨given.extraBuiltinTypes, extra⟩
      testableModules := settles_identifiers_iff.2 ⟨given.testableModules, testable⟩ }

/-- Data are accepted as a configuration exactly if they are fields that give it, where every name
in the lists is an identifier, be it with a line feed behind it; what they give is the
configuration. All the names are identifiers exactly if none of them ends in a line feed. -/
theorem ofData_given (data : Data) (config : Config) :
    (Config.ofData data = .ok config ↔
        ∃ fields, data = .object fields ∧ config.IsGivenBy IsIdentifierLine fields) ∧
      ((∃ fields, data = .object fields ∧ config.IsGivenBy IsIdentifier fields) ↔
        Config.ofData data = .ok config ∧
          ∀ name ∈ config.extraBuiltinTypes ++ config.testableModules,
            name.toList.getLast? ≠ some '\n') := by
  refine ⟨ofData_eq_ok_iff, ?_⟩
  simp only [ofData_eq_ok_iff, isGivenBy_identifiers_iff, ← and_assoc, exists_and_right]

/-- Not all accepted data give identifiers: a line feed may stand behind the name of a module. -/
theorem ofData_not_identifiers :
    ¬ ∀ (data : Data) (config : Config), Config.ofData data = .ok config ↔
      ∃ fields, data = .object fields ∧ config.IsGivenBy IsIdentifier fields := by
  intro claimed
  have accepted : Config.ofData (.object [("testable_modules", .list [.string "Kit\n"])]) =
      .ok { testableModules := ["Kit\n"] } := by rfl
  obtain ⟨fields, isObject, given⟩ := (claimed _ _).1 accepted
  obtain rfl := Data.object.inj isObject
  rcases given.testableModules with ⟨_, isEmpty⟩ | ⟨_, identifiers⟩
  · cases isEmpty
  · exact (identifiers "Kit\n" List.mem_cons_self).not_line (by decide)

end SwiftSlice
