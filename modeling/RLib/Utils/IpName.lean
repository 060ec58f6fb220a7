import RLib.Common
import Mathlib.Data.List.TakeWhile

namespace RLib.IPNameHelper

def isSpace (c : U8) : Bool := c = 32 || (9 ≤ c && c ≤ 13)

def isDigit (c : U8) : Bool := 48 ≤ c && c ≤ 57

def numeral (digits : ByteBuffer) : Nat := digits.foldl (fun n c => 10 * n + (c.toNat - 48)) 0

/-- Whether there is a minus, and what follows the sign. -/
def skipSign : ByteBuffer → Bool × ByteBuffer
  | [] => (false, [])
  | c :: rest => if c = 45 then (true, rest) else if c = 43 then (false, rest) else (false, c :: rest)

/-- A value that an `int` does not hold is a failure of the stream. -/
def intOf (value : Int) : Option Int := if -2 ^ 31 ≤ value ∧ value < 2 ^ 31 then some value else none

/-- `stream >> i` for an `int i`, at its defaults: blanks are skipped, the number is decimal, and what follows it stays
    in the stream. -/
def extractInt (text : ByteBuffer) : Option Int :=
  let (negative, rest) := skipSign (text.dropWhile isSpace)
  let digits := rest.takeWhile isDigit
  if digits = [] then none else intOf (if negative then -numeral digits else numeral digits)

def parseAddr (h : ByteBuffer) : Option (ByteBuffer × Int) :=
  match h.findIdx? (· = 58) with
  | none => none
  | some pos => (extractInt (h.drop (pos + 1))).map (h.take pos, ·)

/-- The port of `SendChannel::convert_addr`, before `htons` turns its bytes around. -/
def sinPort (port : Int) : U16 := BitVec.ofInt 16 port

/-- `std::to_string`. -/
def decimal (n : Nat) : ByteBuffer := (Nat.toDigits 10 n).map fun c => BitVec.ofNat 8 c.toNat

section Decimal

theorem decimal_ne_nil (n : Nat) : decimal n ≠ [] := fun empty => Nat.toDigits_ne_nil (List.map_eq_nil_iff.mp empty)

theorem digit_range {n : Nat} {c : Char} (member : c ∈ Nat.toDigits 10 n) : 48 ≤ c.toNat ∧ c.toNat ≤ 57 :=
  Char.isDigit_iff_toNat.mp (Nat.isDigit_of_mem_toDigits (by decide) (by decide) member)

theorem digit_toNat {n : Nat} {c : Char} (member : c ∈ Nat.toDigits 10 n) :
    (BitVec.ofNat 8 c.toNat).toNat = c.toNat := by
  have range := digit_range member
  rw [BitVec.toNat_ofNat]
  omega

theorem decimal_isDigit (n : Nat) : ∀ c ∈ decimal n, isDigit c := by
  intro c member
  obtain ⟨d, there, rfl⟩ := List.mem_map.mp member
  have range := digit_range there
  rw [isDigit, Bool.and_eq_true, decide_eq_true_eq, decide_eq_true_eq, BitVec.le_def, BitVec.le_def, digit_toNat there]
  exact range

theorem numeral_decimal (n : Nat) : numeral (decimal n) = n := by
  rw [numeral, decimal, List.foldl_map]
  refine Eq.trans ?_ (Nat.ofDigitChars_ten_toDigits (n := n))
  rw [Nat.ofDigitChars_eq_foldl]
  apply List.foldl_ext
  intro value c member
  rw [digit_toNat member]
  rfl

end Decimal

/-- How a port is written: after blanks and at most one sign in decimal, with anything but a digit behind it. -/
structure Written (blanks sign digits rest : ByteBuffer) (port : Int) : Prop where
  spaces : ∀ c ∈ blanks, isSpace c
  signs : sign = [] ∨ sign = [43] ∨ sign = [45]
  number : digits ≠ [] ∧ ∀ c ∈ digits, isDigit c
  ends : ∀ c ∈ rest.head?, ¬isDigit c
  value : port = if sign = [45] then -(numeral digits : Int) else numeral digits
  range : -2 ^ 31 ≤ port ∧ port < 2 ^ 31

theorem intOf_iff (value port : Int) : intOf value = some port ↔ port = value ∧ -2 ^ 31 ≤ port ∧ port < 2 ^ 31 := by
  unfold intOf
  split
  · rename_i range
    rw [Option.some.injEq]
    constructor
    · rintro rfl
      exact ⟨rfl, range⟩
    · exact fun same => same.1.symm
  · rename_i outside
    refine iff_of_false nofun ?_
    rintro ⟨rfl, range⟩
    exact outside range

theorem not_space_of_digit {c : U8} (digit : isDigit c) : ¬isSpace c := by
  revert c
  decide

theorem takeWhile_digits {digits rest : ByteBuffer} (all : ∀ c ∈ digits, isDigit c)
    (ends : ∀ c ∈ rest.head?, ¬isDigit c) : (digits ++ rest).takeWhile isDigit = digits := by
  rw [List.takeWhile_append_of_pos all]
  cases rest with
  | nil => rw [List.takeWhile_nil, List.append_nil]
  | cons c rest => rw [List.takeWhile_cons_of_neg (ends c rfl), List.append_nil]

theorem dropWhile_blanks {blanks rest : ByteBuffer} (all : ∀ c ∈ blanks, isSpace c)
    (starts : ∀ c ∈ rest.head?, ¬isSpace c) : (blanks ++ rest).dropWhile isSpace = rest := by
  rw [List.dropWhile_append_of_pos all]
  cases rest with
  | nil => rfl
  | cons c rest => exact List.dropWhile_cons_of_neg (starts c rfl)

theorem skipSign_signed {sign digits rest : ByteBuffer} (signs : sign = [] ∨ sign = [43] ∨ sign = [45])
    (written : digits ≠ [] ∧ ∀ c ∈ digits, isDigit c) :
    skipSign (sign ++ (digits ++ rest)) = (decide (sign = [45]), digits ++ rest) := by
  rcases signs with rfl | rfl | rfl
  · obtain ⟨c, digits, rfl⟩ := List.exists_cons_of_ne_nil written.1
    have digit := written.2 c List.mem_cons_self
    have noMinus : c ≠ 45 := by
      rintro rfl
      revert digit
      decide
    have noPlus : c ≠ 43 := by
      rintro rfl
      revert digit
      decide
    simp only [List.nil_append, List.cons_append, skipSign, noMinus, noPlus, ↓reduceIte, List.nil_eq, reduceCtorEq,
      decide_false]
  · rfl
  · rfl

theorem signed_starts {sign digits rest : ByteBuffer} (signs : sign = [] ∨ sign = [43] ∨ sign = [45])
    (written : digits ≠ [] ∧ ∀ c ∈ digits, isDigit c) : ∀ c ∈ (sign ++ (digits ++ rest)).head?, ¬isSpace c := by
  obtain ⟨d, digits, rfl⟩ := List.exists_cons_of_ne_nil written.1
  rcases signs with rfl | rfl | rfl
  · rintro _ ⟨⟩
    exact not_space_of_digit (written.2 d List.mem_cons_self)
  · rintro _ ⟨⟩
    decide
  · rintro _ ⟨⟩
    decide

theorem extractInt_written {blanks sign digits rest : ByteBuffer} {port : Int}
    (written : Written blanks sign digits rest port) :
    extractInt (blanks ++ (sign ++ (digits ++ rest))) = some port := by
  have skipped : (blanks ++ (sign ++ (digits ++ rest))).dropWhile isSpace = sign ++ (digits ++ rest) :=
    dropWhile_blanks written.spaces (signed_starts written.signs written.number)
  unfold extractInt
  rw [skipped, skipSign_signed written.signs written.number]
  simp only [takeWhile_digits written.number.2 written.ends, written.number.1, ↓reduceIte, decide_eq_true_eq]
  exact (intOf_iff _ _).mpr ⟨written.value, written.range⟩

theorem skipSign_split (text : ByteBuffer) :
    ∃ sign, (sign = [] ∨ sign = [43] ∨ sign = [45]) ∧ text = sign ++ (skipSign text).2 ∧
      ((skipSign text).1 = true ↔ sign = [45]) := by
  cases text with
  | nil => exact ⟨[], .inl rfl, rfl, by decide⟩
  | cons c rest =>
    rw [skipSign]
    by_cases minus : c = 45
    · rw [if_pos minus]
      exact ⟨[45], .inr (.inr rfl), congrArg (· :: rest) minus, iff_of_true rfl rfl⟩
    · rw [if_neg minus]
      by_cases plus : c = 43
      · rw [if_pos plus]
        exact ⟨[43], .inr (.inl rfl), congrArg (· :: rest) plus, iff_of_false Bool.false_ne_true (by decide)⟩
      · rw [if_neg plus]
        exact ⟨[], .inl rfl, rfl, iff_of_false Bool.false_ne_true (by decide)⟩

theorem extractInt_iff (text : ByteBuffer) (port : Int) :
    extractInt text = some port ↔ ∃ blanks sign digits rest, text = blanks ++ (sign ++ (digits ++ rest)) ∧
      Written blanks sign digits rest port := by
  constructor
  · intro extracted
    unfold extractInt at extracted
    simp only at extracted
    obtain ⟨sign, signs, split, negative⟩ := skipSign_split (text.dropWhile isSpace)
    split at extracted
    · cases extracted
    · rename_i nonempty
      obtain ⟨value, range⟩ := (intOf_iff _ _).mp extracted
      refine ⟨text.takeWhile isSpace, sign, _, (skipSign (text.dropWhile isSpace)).2.dropWhile isDigit, ?_,
        ⟨fun c => List.mem_takeWhile_imp, signs, ⟨nonempty, fun c => List.mem_takeWhile_imp⟩, ?_, ?_, range⟩⟩
      · rw [List.takeWhile_append_dropWhile, ← split, List.takeWhile_append_dropWhile]
      · intro c head
        have stops := List.head?_dropWhile_not isDigit (skipSign (text.dropWhile isSpace)).2
        rw [head] at stops
        simpa using stops
      · rw [value]
        exact if_congr negative rfl rfl
  · rintro ⟨blanks, sign, digits, rest, rfl, written⟩
    exact extractInt_written written

theorem parseAddr_iff (h host : ByteBuffer) (port : Int) :
    parseAddr h = some (host, port) ↔ 58 ∉ host ∧ ∃ text, h = host ++ 58 :: text ∧ extractInt text = some port := by
  unfold parseAddr
  constructor
  · intro parsed
    cases found : h.findIdx? (· = 58) with
    | none =>
      rw [found] at parsed
      cases parsed
    | some pos =>
      rw [found] at parsed
      obtain ⟨value, extracted, same⟩ := Option.map_eq_some_iff.mp parsed
      cases same
      obtain ⟨inside, colon, before⟩ := List.findIdx?_eq_some_iff_getElem.mp found
      refine ⟨?_, h.drop (pos + 1), ?_, extracted⟩
      · intro member
        obtain ⟨i, there, same⟩ := List.mem_iff_getElem.mp member
        rw [List.length_take] at there
        rw [List.getElem_take] at same
        exact before i (by omega) (decide_eq_true same)
      · rw [← of_decide_eq_true colon, ← List.drop_eq_getElem_cons inside, List.take_append_drop]
  · rintro ⟨noColon, text, rfl, extracted⟩
    have found : (host ++ 58 :: text).findIdx? (fun c => decide (c = 58)) = some host.length := by
      have absent : host.findIdx? (fun c => decide (c = 58)) = none := by
        rw [List.findIdx?_eq_none_iff]
        intro c member
        apply decide_eq_false
        rintro rfl
        exact noColon member
      rw [List.findIdx?_append, absent, List.findIdx?_cons]
      simp
    have behind : (host ++ 58 :: text).drop (host.length + 1) = text := by
      rw [List.append_cons]
      exact List.drop_left' (by simp)
    rw [found]
    simp only [List.take_left, behind, extracted, Option.map_some]

theorem sinPort_toNat (port : Int) : ((sinPort port).toNat : Int) = port % 65536 := by
  rw [sinPort, BitVec.toNat_ofInt]
  omega

/-- Exactly the strings of a host, a colon and a port of 16 bits are taken for that. -/
structure AcceptsHostPort : Prop where
  accepts : ∀ (host : ByteBuffer) (port : Nat), 58 ∉ host → port ≤ 65535 →
    parseAddr (host ++ 58 :: decimal port) = some (host, (port : Int))
  only : ∀ h host port, parseAddr h = some (host, port) →
    ∃ digits, h = host ++ 58 :: digits ∧ digits ≠ [] ∧ (∀ c ∈ digits, isDigit c) ∧ port = numeral digits ∧
      0 ≤ port ∧ port ≤ 65535 ∧ ((sinPort port).toNat : Int) = port

/-- The strings of a host, a colon and text that starts with a number are taken for that; the port of the socket
    address is what 16 bits hold of it. -/
structure AcceptsHostNumber : Prop where
  accepts : ∀ (host : ByteBuffer) (port : Nat), 58 ∉ host → port ≤ 65535 →
    parseAddr (host ++ 58 :: decimal port) = some (host, (port : Int))
  only : ∀ h host port, parseAddr h = some (host, port) ↔
    58 ∉ host ∧ ∃ blanks sign digits rest, h = host ++ 58 :: (blanks ++ (sign ++ (digits ++ rest))) ∧
      Written blanks sign digits rest port
  narrows : ∀ port : Int, ((sinPort port).toNat : Int) = port % 65536

theorem written_decimal {port : Nat} (bounded : port ≤ 65535) : Written [] [] (decimal port) [] port where
  spaces := nofun
  signs := .inl rfl
  number := ⟨decimal_ne_nil port, decimal_isDigit port⟩
  ends := nofun
  value := by rw [numeral_decimal]; rfl
  range := by omega

theorem parseAddr_accepts : AcceptsHostNumber where
  accepts := by
    intro host port noColon bounded
    have extracted := extractInt_written (written_decimal bounded)
    rw [List.append_nil] at extracted
    exact (parseAddr_iff _ host port).mpr ⟨noColon, _, rfl, extracted⟩
  only := by
    intro h host port
    rw [parseAddr_iff]
    apply and_congr_right
    intro _
    constructor
    · intro ⟨text, split, extracted⟩
      obtain ⟨blanks, sign, digits, rest, rfl, written⟩ := (extractInt_iff text port).mp extracted
      exact ⟨blanks, sign, digits, rest, split, written⟩
    · intro ⟨blanks, sign, digits, rest, split, written⟩
      exact ⟨_, split, extractInt_written written⟩
  narrows := sinPort_toNat

/-- "h: 80", "h:+80", "h:80x", "h:-1" and "h:70000", whose port becomes 4464. -/
theorem parseAddr_lenient :
    parseAddr [104, 58, 32, 56, 48] = some ([104], 80) ∧ parseAddr [104, 58, 43, 56, 48] = some ([104], 80) ∧
      parseAddr [104, 58, 56, 48, 120] = some ([104], 80) ∧ parseAddr [104, 58, 45, 49] = some ([104], -1) ∧
      parseAddr [104, 58, 55, 48, 48, 48, 48] = some ([104], 70000) ∧ sinPort 70000 = 4464 ∧ ¬AcceptsHostPort := by
  refine ⟨by decide, by decide, by decide, by decide, by decide, by decide, ?_⟩
  intro accepts
  obtain ⟨_, _, _, _, _, positive, _⟩ := accepts.only [104, 58, 45, 49] [104] (-1) (by decide)
  exact absurd positive (by decide)

end RLib.IPNameHelper
