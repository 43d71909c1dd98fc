import RadioLink.Json.Reader
import RadioLink.Json.Writer
import RadioLink.Proofs.Text.Digits

/-!
Strings and numbers that have been written are read back. A reader takes what was written off the
front of a text, whatever follows it.
-/

set_option autoImplicit false
set_option relaxedAutoImplicit false

namespace RadioLink.Json

variable {α β : Type} {text rest : List Char} {value : List Char} {a : α}

/-- What may follow a value: the end of the text, a comma or a closing bracket. -/
def Ends (rest : List Char) : Prop :=
  ∀ c ∈ rest.head?, c = ',' ∨ c = ']' ∨ c = '\x7d'

/-- A reader takes a written value off the front of any text. -/
def Reads (read : Reader α) (value : List Char) (a : α) : Prop :=
  ∀ rest, Ends rest → read (value ++ rest) = .ok (a, rest)

private theorem ends_nil : Ends [] := nofun

theorem ends_cons {c : Char} (closes : c = ',' ∨ c = ']' ∨ c = '\x7d') (rest : List Char) :
    Ends (c :: rest) := by
  rintro _ ⟨⟩
  exact closes

theorem bind_ok {read : Reader α} {next : α → Reader β} (h : read text = .ok (a, rest)) :
    (read >>= next) text = next a rest := by
  simp only [bind, StateT.bind, h, Except.bind]

theorem Reads.run {read : Reader α} (h : Reads read value a) :
    read.run (String.ofList value) = .ok a := by
  have hread := h [] ends_nil
  rw [List.append_nil] at hread
  rw [Reader.run, String.toList_ofList, hread]
  rfl

theorem peek_cons {c : Char} (solid : isSpace c = false) (rest : List Char) :
    peek (c :: rest) = .ok (some c, c :: rest) := by
  simp [peek, skipSpaces, solid]

/-! ### Strings -/

private theorem hexValue4?_of_lt {n : Nat} (small : n < 32) :
    hexValue4? '0' '0' (Bytes.hexDigit (n / 16)) (Bytes.hexDigit (n % 16)) = some n := by
  have hhigh := Text.hexValue?_hexDigit (n := n / 16) (by omega)
  have hlow := Text.hexValue?_hexDigit (n := n % 16) (by omega)
  have hzero : Bytes.hexValue? '0' = some 0 := by decide
  simp only [hexValue4?, hzero, hhigh, hlow, Option.bind_eq_bind, Option.bind_some, Option.pure_def]
  congr 1
  omega

private theorem stringTail_plain {c : Char} (quote : c ≠ '"') (backslash : c ≠ '\\')
    (printed : ¬ c.toNat < 0x20) (rest : List Char) :
    stringTail (c :: rest) = (stringTail rest).map (consChar c) := by
  rw [stringTail]
  · exact if_neg printed
  -- The other equations are about a quote or a backslash.
  all_goals
    intros
    contradiction

private theorem stringTail_escapedChar (c : Char) (rest : List Char) :
    stringTail (escapedChar c ++ rest) = (stringTail rest).map (consChar c) := by
  rw [escapedChar]
  split_ifs with hquote hbackslash h3 h4 h5 h6 h7 hcontrol
  · subst hquote
    simp [stringTail, simpleEscape?]
  · subst hbackslash
    simp [stringTail, simpleEscape?]
  · subst h3
    simp [stringTail, simpleEscape?]
  · subst h4
    simp [stringTail, simpleEscape?]
  · subst h5
    simp [stringTail, simpleEscape?]
  · subst h6
    simp [stringTail, simpleEscape?]
  · subst h7
    simp [stringTail, simpleEscape?]
  · have hlow : isLowSurrogate c.toNat = false := by simp [isLowSurrogate]; omega
    have hhigh : isHighSurrogate c.toNat = false := by simp [isHighSurrogate]; omega
    simp only [List.cons_append, List.nil_append, stringTail, hexValue4?_of_lt hcontrol, hlow,
      hhigh]
    rw [Char.ofNat_toNat]
    rfl
  · exact stringTail_plain hquote hbackslash hcontrol rest

private theorem stringTail_written (text rest : List Char) :
    stringTail (text.flatMap escapedChar ++ '"' :: rest) = .ok (text, rest) := by
  induction text with
  | nil => simp [stringTail]
  | cons c text ih =>
    rw [List.flatMap_cons, List.append_assoc, stringTail_escapedChar, ih]
    rfl

theorem stringBody_written (text rest : List Char) :
    stringBody (text.flatMap escapedChar ++ '"' :: rest) = .ok (String.ofList text, rest) := by
  rw [stringBody, stringTail_written]
  rfl

theorem writeString_append (text rest : List Char) :
    writeString text ++ rest = '"' :: (text.flatMap escapedChar ++ '"' :: rest) := by
  simp [writeString]

private theorem reads_string (expected : String) (text : List Char) :
    Reads (string expected) (writeString text) (String.ofList text) := by
  intro rest _
  rw [writeString_append, string, bind_ok (peek_cons (by decide) _)]
  exact (bind_ok rfl).trans (stringBody_written text rest)

theorem reads_text (expected text : String) :
    Reads (string expected) (writeString text.toList) text := by
  have hread := reads_string expected text.toList
  rwa [String.ofList_toList] at hread

theorem reads_parsed {expected : String} {parse : String → Except String α}
    (understood : parse (String.ofList text) = .ok a) :
    Reads (parsed expected parse) (writeString text) a := by
  intro rest ends
  rw [parsed, bind_ok (reads_string expected text rest ends), understood]
  rfl

/-! ### Numbers -/

private theorem Ends.not_digit (ends : Ends rest) :
    ∀ c ∈ rest.head?, Text.isDecimalDigit c = false := by
  intro c hc
  rcases ends c hc with rfl | rfl | rfl <;> decide

private theorem foldl_pushDigit {n : Nat} (small : n < UInt64.size) :
    (Text.decimalDigits n).foldl Scaled.pushDigit ⟨0, 0⟩ = ⟨n, 0⟩ := by
  refine Text.foldl_decimalDigits Scaled.pushDigit (fun n => ⟨n, 0⟩) ⟨0, 0⟩ ?_ ?_
  · intro d hd
    have hfits : ¬ UInt64.size ≤ d := Nat.not_le.mpr (Nat.lt_trans hd (by decide))
    simp [Scaled.pushDigit, Text.digitValue_decimalDigit hd, hfits]
  · intro m d hd hle
    have hfits : ¬ UInt64.size ≤ 10 * m + d := Nat.not_le.mpr (Nat.lt_of_le_of_lt hle small)
    simp [Scaled.pushDigit, Text.digitValue_decimalDigit hd, hfits]

private theorem Ends.any_digit (ends : Ends rest) : rest.head?.any Text.isDecimalDigit = false := by
  cases hhead : rest.head? with
  | none => rfl
  | some c => exact ends.not_digit c hhead

private theorem no_leading_zero {n : Nat} {c : Char} {front : List Char}
    (digits : Text.decimalDigits n = c :: front) (ends : Ends rest) :
    (decide (c = '0') && (front ++ rest).head?.any Text.isDecimalDigit) = false := by
  by_cases hzero : c = '0'
  · have hn : n = 0 := Text.eq_zero_of_head_decimalDigits (by rw [digits, hzero]; rfl)
    rw [hn, Text.decimalDigits] at digits
    obtain ⟨-, rfl⟩ := List.cons.inj digits
    rw [List.nil_append, ends.any_digit, Bool.and_false]
  · rw [decide_eq_false hzero, Bool.false_and]

/-- The number that some digits write, behind a minus sign or not. A negative one that is zero or
does not fit into 64 bits is a floating-point number. -/
private def Number.ofDigits (positive : Bool) (n : Nat) : Number :=
  if positive then .unsigned n
  else if n = 0 || 9223372036854775808 < n then .float (-(UInt64.ofNat n).toFloat)
  else .negative n

private theorem numberTail_decimalDigits (positive : Bool) {n : Nat} (small : n < UInt64.size)
    (ends : Ends rest) : numberTail positive (Text.decimalDigits n ++ rest) =
      .ok (.ofDigits positive n, rest) := by
  obtain ⟨c, front, hdigits, hc⟩ := Text.exists_decimalDigits_eq_cons n
  have hspan := Text.span_decimalDigits n ends.not_digit
  rw [hdigits, List.cons_append] at hspan ⊢
  have hvalue := foldl_pushDigit small
  rw [hdigits] at hvalue
  have hwhole : (if positive then .ok (.unsigned n, rest)
      else if n = 0 || 9223372036854775808 < n then
        .ok (.float (-(UInt64.ofNat n).toFloat), rest)
      else .ok (.negative n, rest) : Except Error (Number × List Char)) =
        .ok (.ofDigits positive n, rest) := by
    unfold Number.ofDigits
    split_ifs <;> rfl
  simp only [numberTail, hc, no_leading_zero hdigits ends, hspan, hvalue]
  cases rest with
  | nil => exact hwhole
  | cons d rest => rcases ends d rfl with rfl | rfl | rfl <;> exact hwhole

theorem digit_solid {c : Char} (digit : Text.isDecimalDigit c = true) :
    isSpace c = false ∧ c ≠ '-' := by
  refine ⟨?_, ?_⟩
  · simp only [isSpace, Bool.or_eq_false_iff, decide_eq_false_iff_not]
    refine ⟨⟨⟨?_, ?_⟩, ?_⟩, ?_⟩ <;>
      · rintro rfl
        exact absurd digit (by decide)
  · rintro rfl
    exact absurd digit (by decide)

private theorem reads_digits (expected : String) {accept : Number → Option α} {n : Nat}
    (small : n < UInt64.size) (accepted : accept (.unsigned n) = some a) :
    Reads (integer expected accept) (Text.decimalDigits n) a := by
  intro rest ends
  obtain ⟨c, front, hdigits, hc⟩ := Text.exists_decimalDigits_eq_cons n
  obtain ⟨hsolid, hminus⟩ := digit_solid hc
  have hnumber : number true (Text.decimalDigits n ++ rest) = .ok (.unsigned n, rest) :=
    numberTail_decimalDigits true small ends
  have hpeek : peek (Text.decimalDigits n ++ rest) =
      .ok (some c, Text.decimalDigits n ++ rest) := by
    rw [hdigits]
    exact peek_cons hsolid _
  rw [integer, bind_ok hpeek]
  -- No sign stands in front, by `hminus`.
  simp only [hc, if_true, bind_ok hnumber, accepted]
  rfl

theorem reads_unsigned (expected : String) {n bound : Nat} (small : n < bound)
    (fits : bound ≤ UInt64.size) :
    Reads (unsigned expected bound) (Text.decimalDigits n) n :=
  reads_digits expected (Nat.lt_of_lt_of_le small fits) (if_pos small)

private theorem reads_minus (expected : String) {accept : Number → Option α} {n : Nat}
    (pos : 0 < n) (small : n ≤ 9223372036854775808) (accepted : accept (.negative n) = some a) :
    Reads (integer expected accept) ('-' :: Text.decimalDigits n) a := by
  intro rest ends
  have hdigits : Number.ofDigits false n = .negative n := by
    have hwhole : ¬(n = 0 || 9223372036854775808 < n) = true := by simp; omega
    rw [Number.ofDigits, if_neg Bool.false_ne_true, if_neg hwhole]
  have hnumber : number false (Text.decimalDigits n ++ rest) = .ok (.negative n, rest) := by
    rw [number, numberTail_decimalDigits false (Nat.lt_of_le_of_lt small (by decide)) ends, hdigits]
  rw [List.cons_append, integer, bind_ok (peek_cons (by decide) _)]
  have hsign : advance ('-' :: (Text.decimalDigits n ++ rest)) =
      .ok ((), Text.decimalDigits n ++ rest) := rfl
  refine (bind_ok hsign).trans ((bind_ok hnumber).trans ?_)
  simp only [accepted]
  rfl

theorem reads_int16 (n : Int16) : Reads int16 (writeInt n.toInt) n := by
  have hlow := n.le_toInt
  have hhigh := n.toInt_lt
  have hback : Int16.ofInt n.toInt = n := n.ofInt_toInt
  cases hn : n.toInt with
  | ofNat k =>
    have hk : k < 32768 := by
      rw [hn] at hhigh
      exact Int.ofNat_lt.mp hhigh
    have hsame : Int16.ofNat k = n := by rw [← hback, hn]; rfl
    rw [writeInt, Text.signedDecimal, Text.decimal, String.toList_ofList]
    exact reads_digits "i16" (Nat.lt_trans hk (by decide)) (by simp [hk, hsame])
  | negSucc k =>
    have hk : k + 1 ≤ 32768 := by omega
    have hsame : Int16.ofInt (-(Int.ofNat (k + 1))) = n := by rw [← hback, hn]; rfl
    rw [writeInt, Text.signedDecimal, String.toList_ofList]
    exact reads_minus "i16" (Nat.succ_pos k) (by omega) (by simp only [hk, if_true, hsame])

/-! ### Names -/

theorem reads_boolean (b : Bool) : Reads boolean (writeBool b) b := by
  intro rest _
  cases b with
  | true =>
    rw [boolean, writeBool, List.cons_append, bind_ok (peek_cons (by decide) _)]
    rfl
  | false =>
    rw [boolean, writeBool, List.cons_append, bind_ok (peek_cons (by decide) _)]
    rfl

theorem reads_optional {read : Reader α} {write : α → List Char}
    (reads : ∀ a, Reads read (write a) a)
    (solid : ∀ a, ∃ c front, write a = c :: front ∧ isSpace c = false ∧ c ≠ 'n')
    (a? : Option α) : Reads (optional read) (writeOptional write a?) a? := by
  intro rest ends
  cases a? with
  | none =>
    rw [writeOptional, List.cons_append, optional, bind_ok (peek_cons (by decide) _)]
    rfl
  | some a =>
    obtain ⟨c, front, hwritten, hsolid, hnull⟩ := solid a
    have hpeek : peek (write a ++ rest) = .ok (some c, write a ++ rest) := by
      rw [hwritten]
      exact peek_cons hsolid _
    have hread : (do return some (← read) : Reader (Option α)) (write a ++ rest) =
        .ok (some a, rest) := (bind_ok (reads a rest ends)).trans rfl
    rw [writeOptional, optional, bind_ok hpeek]
    refine (congrFun ?_ (write a ++ rest)).trans hread
    split
    · rename_i hc
      exact absurd (Option.some.inj hc) hnull
    · rfl

end RadioLink.Json
