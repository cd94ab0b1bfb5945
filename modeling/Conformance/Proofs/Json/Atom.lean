import Conformance.Json.Reader
import Conformance.Json.Writer

/-! # Texts and integers in JSON are read back

Whatever follows a written text, reading gives the text and leaves what follows. A character is
written as itself, with an escape of one letter, or with one or two code escapes; each of these is
undone by one step of the reader. An integer is read back when no digit, point or exponent follows
and its digits do not pass the limit.
-/

namespace Conformance.Json

theorem codeUnit?_hexPadded {unit : Nat} (h : unit < 0x10000) (c : Char) (rest : List Char) :
    codeUnit? (Text.hexPadded 4 unit ++ c :: rest) = some (unit, c :: rest) := by
  change (Text.hexNumber? (Text.hexPadded 4 unit)).map (·, c :: rest) = _
  rw [Text.hexNumber?_hexPadded h, Option.map_some]

/-- No character has the code of half a pair. -/
theorem not_half_toNat (c : Char) :
    isHighHalf c.toNat = false ∧ isLowHalf c.toNat = false := by
  have hvalid := c.valid
  simp only [UInt32.isValidChar, Nat.isValidChar] at hvalid
  simp only [isHighHalf, isLowHalf, Bool.and_eq_false_iff, decide_eq_false_iff_not, Char.toNat]
  omega

theorem readText_unitEscape (fuel : Nat) {c : Char} (h : c.toNat < 0x10000) (d : Char)
    (rest : List Char) :
    readText (fuel + 1) (unitEscape c.toNat ++ d :: rest) =
      (readText fuel (d :: rest)).map fun (read, rest) => (c :: read, rest) := by
  obtain ⟨hhigh, hlow⟩ := not_half_toNat c
  have hjoin : joinUnit c.toNat (d :: rest) = (c, d :: rest) := by
    unfold joinUnit
    simp [hhigh, hlow, charOfUnit]
  simp only [unitEscape, List.cons_append, readText, codeUnit?_hexPadded h, hjoin]

theorem readText_pairEscape (fuel : Nat) {high low : Nat} (hhigh : isHighHalf high = true)
    (hlow : isLowHalf low = true) (d : Char) (rest : List Char) :
    readText (fuel + 1) (unitEscape high ++ (unitEscape low ++ d :: rest)) =
      (readText fuel (d :: rest)).map fun (read, rest) =>
        (Char.ofNat (joinHalves high low) :: read, rest) := by
  have hunit : high < 0x10000 := by
    simp only [isHighHalf, Bool.and_eq_true, decide_eq_true_eq] at hhigh
    omega
  have hunit' : low < 0x10000 := by
    simp only [isLowHalf, Bool.and_eq_true, decide_eq_true_eq] at hlow
    omega
  have hjoin : joinUnit high ('\\' :: 'u' :: (Text.hexPadded 4 low ++ d :: rest)) =
      (Char.ofNat (joinHalves high low), d :: rest) := by
    simp only [joinUnit, hhigh, codeUnit?_hexPadded hunit', hlow, if_true]
  simp only [unitEscape, List.cons_append, readText, codeUnit?_hexPadded hunit, hjoin]

theorem isHighHalf_of_code {code : Nat} (h : code < 0x110000) :
    isHighHalf (0xd800 + (code - 0x10000) / 0x400) = true := by
  simp only [isHighHalf, Bool.and_eq_true, decide_eq_true_eq]
  omega

theorem isLowHalf_of_code (code : Nat) :
    isLowHalf (0xdc00 + (code - 0x10000) % 0x400) = true := by
  simp only [isLowHalf, Bool.and_eq_true, decide_eq_true_eq]
  omega

/-- Beyond the first plane a code is the pair of its halves. -/
theorem joinHalves_of_code {code : Nat} (h : 0x10000 ≤ code) :
    joinHalves (0xd800 + (code - 0x10000) / 0x400) (0xdc00 + (code - 0x10000) % 0x400) =
      code := by
  unfold joinHalves
  omega

theorem toNat_lt (c : Char) : c.toNat < 0x110000 := by
  have hvalid := c.valid
  simp only [UInt32.isValidChar, Nat.isValidChar] at hvalid
  simp only [Char.toNat]
  omega

theorem readText_codeEscape (fuel : Nat) (c d : Char) (rest : List Char) :
    readText (fuel + 1) (codeEscape c.toNat ++ d :: rest) =
      (readText fuel (d :: rest)).map fun (read, rest) => (c :: read, rest) := by
  unfold codeEscape
  split
  · exact readText_unitEscape fuel ‹_› d rest
  · have hplane : 0x10000 ≤ c.toNat := Nat.le_of_not_lt ‹_›
    rw [List.append_assoc,
      readText_pairEscape fuel (isHighHalf_of_code (toNat_lt c)) (isLowHalf_of_code _),
      joinHalves_of_code hplane, Char.ofNat_toNat]

/-- A character that needs no escape is read as itself. -/
theorem readText_plain (fuel : Nat) {c : Char} (hquote : c ≠ '"') (hslash : c ≠ '\\')
    (hcontrol : 0x20 ≤ c.toNat) (rest : List Char) :
    readText (fuel + 1) (c :: rest) =
      (readText fuel rest).map fun (read, rest) => (c :: read, rest) := by
  rw [readText, if_neg (Nat.not_lt.2 hcontrol)]
  · exact hquote
  · exact fun h _ => hslash h
  · exact fun _ h _ => hslash h
  · exact fun _ _ h _ => hslash h

/-- One step of the reader undoes what is written for a character. -/
theorem readText_writeChar (fuel : Nat) (c d : Char) (rest : List Char) :
    readText (fuel + 1) (writeChar c ++ d :: rest) =
      (readText fuel (d :: rest)).map fun (read, rest) => (c :: read, rest) := by
  unfold writeChar
  cases hletter : escapeLetter? c with
  | some letter =>
      unfold escapeLetter? at hletter
      split at hletter <;> cases hletter <;> rfl
  | none =>
      have hescaped : ∀ d, (escapeLetter? d).isSome = true → c ≠ d := by
        rintro d hd rfl
        simp [hletter] at hd
      dsimp only
      split
      · rename_i hplain
        exact readText_plain fuel (hescaped '"' rfl) (hescaped '\\' rfl) hplain.1 _
      · exact readText_codeEscape fuel c d rest

/-! ## Texts -/

theorem length_le_flatMap_writeChar (text : List Char) :
    text.length ≤ (text.flatMap writeChar).length := by
  induction text with
  | nil => simp
  | cons c text ih =>
      have hone : 1 ≤ (writeChar c).length := by
        unfold writeChar codeEscape unitEscape
        split
        · simp
        · split
          · simp
          · split <;> simp
      simp only [List.flatMap_cons, List.length_append, List.length_cons]
      omega

theorem readText_flatMap_writeChar {fuel : Nat} {text : List Char} (h : text.length < fuel)
    (rest : List Char) :
    readText fuel (text.flatMap writeChar ++ '"' :: rest) = .ok (text, rest) := by
  induction text generalizing fuel with
  | nil =>
      obtain ⟨fuel, rfl⟩ := Nat.exists_eq_succ_of_ne_zero (Nat.ne_of_gt h)
      rfl
  | cons c text ih =>
      obtain ⟨fuel, rfl⟩ := Nat.exists_eq_succ_of_ne_zero (Nat.ne_of_gt (Nat.zero_lt_of_lt h))
      have hrest := ih (Nat.lt_of_succ_lt_succ h)
      -- What is left after a character is never empty, so a code escape is always complete.
      obtain ⟨d, more, hmore⟩ :
          ∃ d more, text.flatMap writeChar ++ '"' :: rest = d :: more :=
        List.exists_cons_of_ne_nil (by simp)
      rw [List.flatMap_cons, List.append_assoc, hmore, readText_writeChar, ← hmore, hrest]
      rfl

theorem readString_flatMap_writeChar {fuel : Nat} {s : String} (h : s.toList.length < fuel)
    (rest : List Char) :
    readString fuel (s.toList.flatMap writeChar ++ '"' :: rest) = .ok (s, rest) := by
  rw [readString, readText_flatMap_writeChar h]
  simp

def Closed (rest : List Char) : Prop :=
  ∀ c ∈ rest.head?, c.isDigit = false ∧ c ≠ '.' ∧ c ≠ 'e' ∧ c ≠ 'E'

theorem takeDecimals_append {digits : List Char} (h : ∀ c ∈ digits, c.isDigit = true)
    {rest : List Char} (hrest : Closed rest) :
    Numeral.takeDecimals (digits ++ rest) = (digits, rest) := by
  have hstop : rest.takeWhile (·.isDigit) = [] ∧ rest.dropWhile (·.isDigit) = rest := by
    cases rest with
    | nil => simp
    | cons c rest => simp [(hrest c rfl).1]
  rw [Numeral.takeDecimals, List.takeWhile_append_of_pos h, List.dropWhile_append_of_pos h,
    hstop.1, hstop.2, List.append_nil]

theorem digit?_of_isDigit {c : Char} (h : c.isDigit = true) :
    Numeral.digit? 10 c = some (c.toNat - '0'.toNat) := by
  simp only [Char.isDigit, ge_iff_le, Bool.and_eq_true, decide_eq_true_eq] at h
  have hrange : '0' ≤ c ∧ c ≤ '9' := h
  have hsmall : c.toNat - 0x30 < 10 := by
    have hmost : c.toNat ≤ 57 := h.2
    omega
  simp [Numeral.digit?, hrange, hsmall]

theorem ofDigits?_of_isDigit {digits : List Char} (h : ∀ c ∈ digits, c.isDigit = true) :
    Numeral.ofDigits? 10 digits = some (Nat.ofDigitChars 10 digits 0) := by
  unfold Numeral.ofDigits?
  generalize 0 = total
  induction digits generalizing total with
  | nil => rfl
  | cons c digits ih =>
      rw [List.foldlM_cons, digit?_of_isDigit (h c List.mem_cons_self)]
      rw [Nat.ofDigitChars_cons, Nat.mul_comm]
      exact ih (fun d hd => h d (List.mem_cons_of_mem c hd)) _

theorem ofDigits?_toDigits (n : Nat) : Numeral.ofDigits? 10 (Nat.toDigits 10 n) = some n := by
  have hdigits : ∀ c ∈ Nat.toDigits 10 n, c.isDigit = true :=
    fun c => Nat.isDigit_of_mem_toDigits (by decide) (by decide)
  rw [ofDigits?_of_isDigit hdigits, Nat.ofDigitChars_ten_toDigits]

/-- No number but zero starts with a zero. -/
theorem toDigits_eq_cons {n : Nat} (h : 0 < n) :
    ∃ d digits, Nat.toDigits 10 n = d :: digits ∧ d ≠ '0' := by
  induction n using Nat.strongRecOn with
  | ind n ih =>
      rw [Nat.toDigits_eq_if (by decide)]
      split
      · rename_i hsmall
        have hdigit : ∀ m < 10, 0 < m → m.digitChar ≠ '0' := by decide
        exact ⟨_, [], rfl, hdigit n hsmall h⟩
      · obtain ⟨d, digits, hdigits, hd⟩ := ih (n / 10) (by omega) (by omega)
        exact ⟨d, digits ++ [(n % 10).digitChar], by rw [hdigits]; rfl, hd⟩

theorem takeWhole_toDigits (n : Nat) {rest : List Char} (hrest : Closed rest) :
    takeWhole (Nat.toDigits 10 n ++ rest) = (Nat.toDigits 10 n, rest) := by
  rcases Nat.eq_zero_or_pos n with rfl | hpos
  · rfl
  · have hdigits : ∀ c ∈ Nat.toDigits 10 n, c.isDigit = true :=
      fun c => Nat.isDigit_of_mem_toDigits (by decide) (by decide)
    rw [← takeDecimals_append hdigits hrest]
    obtain ⟨d, digits, heq, hd⟩ := toDigits_eq_cons hpos
    rw [heq, List.cons_append, takeWhole]
    exact fun rest h => hd (List.cons.inj h).1

theorem takeFraction_of_closed {rest : List Char} (h : Closed rest) :
    takeFraction rest = ([], rest) := by
  cases rest with
  | nil => rfl
  | cons c rest =>
      rw [takeFraction]
      exact fun more heq => (h c rfl).2.1 (List.cons.inj heq).1

theorem takeExponent_of_closed {rest : List Char} (h : Closed rest) :
    takeExponent rest = (none, rest) := by
  cases rest with
  | nil => rfl
  | cons c rest =>
      have hnone : ¬ (c = 'e' ∨ c = 'E') := not_or.2 (h c rfl).2.2
      rw [takeExponent, if_neg hnone]

theorem ne_of_isDigit {c d : Char} (h : c.isDigit = true) (hd : d.isDigit = false) : c ≠ d := by
  rintro rfl
  rw [h] at hd
  cases hd

/-- The digits of a number start with a digit. -/
theorem toDigits_append_eq (n : Nat) (rest : List Char) :
    ∃ d more, Nat.toDigits 10 n ++ rest = d :: more ∧ d.isDigit = true := by
  obtain ⟨d, digits, hcons⟩ :=
    List.exists_cons_of_ne_nil (Nat.toDigits_ne_nil (n := n) (b := 10))
  have hmem : d ∈ Nat.toDigits 10 n := hcons ▸ List.mem_cons_self
  refine ⟨d, digits ++ rest, by rw [hcons, List.cons_append], ?_⟩
  exact Nat.isDigit_of_mem_toDigits (by decide) (by decide) hmem

theorem writeInteger_eq_append (n : Int) :
    writeInteger n = (if n < 0 then ['-'] else []) ++ Nat.toDigits 10 n.natAbs := by
  unfold writeInteger
  split <;> rfl

theorem signed_natAbs (n : Int) : Numeral.signed (decide (n < 0)) n.natAbs = n := by
  unfold Numeral.signed
  by_cases h : n < 0
  · rw [decide_eq_true h, if_pos rfl]
    omega
  · rw [decide_eq_false h, if_neg Bool.false_ne_true]
    omega

theorem readNumber_toDigits {n : Nat} (h : (Nat.toDigits 10 n).length ≤ digitLimit)
    (negative : Bool) {rest : List Char} (hrest : Closed rest) :
    readNumber ((if negative then ['-'] else []) ++ (Nat.toDigits 10 n ++ rest)) =
      .ok (.int (Numeral.signed negative n), rest) := by
  have hnonempty : (Nat.toDigits 10 n).isEmpty = false := by simp [Nat.toDigits_ne_nil]
  unfold readNumber
  split
  rename_i negative' body heq
  have hbody : negative' = negative ∧ body = Nat.toDigits 10 n ++ rest := by
    obtain ⟨d, more, hcons, hd⟩ := toDigits_append_eq n rest
    cases negative with
    | true =>
        cases heq
        exact ⟨rfl, rfl⟩
    | false =>
        have hminus : d ≠ '-' := ne_of_isDigit hd rfl
        simp only [Bool.false_eq_true, if_false, List.nil_append, hcons] at heq ⊢
        split at heq
        · exact absurd (List.cons.inj ‹_›).1 hminus
        · cases heq
          exact ⟨rfl, rfl⟩
  obtain ⟨rfl, rfl⟩ := hbody
  simp only [takeWhole_toDigits n hrest, hnonempty, takeFraction_of_closed hrest,
    takeExponent_of_closed hrest, List.append_nil, ofDigits?_toDigits, if_neg (Nat.not_lt.2 h)]
  rfl

/-- No name starts like a number. -/
theorem readPlain_of_isDigit {d : Char} (hd : d.isDigit = true) (negative : Bool)
    (more : List Char) :
    readPlain ((if negative then ['-'] else []) ++ d :: more) =
      readNumber ((if negative then ['-'] else []) ++ d :: more) := by
  have hne : ∀ c : Char, c.isDigit = false → c ≠ d := fun c hc => (ne_of_isDigit hd hc).symm
  cases negative <;>
    simp [readPlain, names, dropStart?, hne 'n' rfl, hne 't' rfl, hne 'f' rfl, hne 'N' rfl,
      hne 'I' rfl, hne '-' rfl]

theorem readPlain_writeInteger {n : Int} (h : (Nat.toDigits 10 n.natAbs).length ≤ digitLimit)
    {rest : List Char} (hrest : Closed rest) :
    readPlain (writeInteger n ++ rest) = .ok (.int n, rest) := by
  obtain ⟨d, more, hcons, hd⟩ := toDigits_append_eq n.natAbs rest
  have hnumber := readNumber_toDigits h (decide (n < 0)) hrest
  rw [signed_natAbs, hcons, ← readPlain_of_isDigit hd] at hnumber
  rw [writeInteger_eq_append, List.append_assoc, hcons]
  simpa using hnumber

end Conformance.Json
