import IrLink.Text.Utf8

/-!
# UTF-8 round trip

`decode_encode` says that every text is read back from its bytes, and
`encode_of_decode` that bytes which are read as a text are the bytes of that
text.  Both rest on one rule for each width of a character.
-/

namespace IrLink.Text.Utf8

/-! ## Bytes of a sequence -/

theorem within_iff {low high b : UInt8} :
    (decide (low ≤ b) && decide (b ≤ high)) = true ↔
      low.toNat ≤ b.toNat ∧ b.toNat ≤ high.toNat := by
  simp [UInt8.le_iff_toNat_le]

theorem isTrail_iff (b : UInt8) : isTrail b = true ↔ 0x80 ≤ b.toNat ∧ b.toNat ≤ 0xBF :=
  within_iff

/-- The first byte behind a leading byte is bounded further at the ends of the
widths three and four, and around the surrogates. -/
theorem isSecond_iff (lead b : UInt8) :
    isSecond lead b = true ↔
      (0x80 ≤ b.toNat ∧ b.toNat ≤ 0xBF) ∧ (lead.toNat = 0xE0 → 0xA0 ≤ b.toNat) ∧
        (lead.toNat = 0xED → b.toNat ≤ 0x9F) ∧ (lead.toNat = 0xF0 → 0x90 ≤ b.toNat) ∧
          (lead.toNat = 0xF4 → b.toNat ≤ 0x8F) := by
  have equal (n : UInt8) : lead = n ↔ lead.toNat = n.toNat := UInt8.toNat_inj.symm
  simp only [isSecond, isTrail, beq_iff_eq, equal]
  repeat' split
  all_goals
    simp only [Bool.and_eq_true, decide_eq_true_eq, UInt8.le_iff_toNat_le,
      UInt8.reduceToNat] at *
    omega

theorem toNat_byte {n : Nat} (small : n < 256) : (byte n).toNat = n := by
  simp [byte, Nat.mod_eq_of_lt small]

theorem toNat_trail (n : Nat) : (trail n).toNat = 0x80 + n % 64 :=
  toNat_byte (by omega)

theorem isTrail_trail (n : Nat) : isTrail (trail n) = true := by
  rw [isTrail_iff, toNat_trail]
  omega

/-- A byte is determined by its number. -/
theorem byte_eq {b : UInt8} {n : Nat} (equal : n = b.toNat) : byte n = b := by
  simp [byte, equal]

theorem trail_eq {b : UInt8} {n : Nat} (trails : isTrail b = true)
    (equal : n % 64 = b.toNat - 0x80) : trail n = b := by
  rw [isTrail_iff] at trails
  exact byte_eq (by omega)

/-! ## Reading one character -/

variable (index : Nat) (rest : List UInt8)

theorem decodeFrom_one {lead : UInt8} (low : lead.toNat < 0x80) :
    decodeFrom index (lead :: rest) =
      (decodeFrom (index + 1) rest).map (Char.ofNat lead.toNat :: ·) := by
  rw [decodeFrom.eq_def]
  simp only [UInt8.lt_iff_toNat_lt, UInt8.reduceToNat, low, ↓reduceIte]
  cases decodeFrom (index + 1) rest <;> rfl

theorem decodeFrom_two {lead b : UInt8} (low : 0xC2 ≤ lead.toNat) (high : lead.toNat ≤ 0xDF)
    (trails : isTrail b = true) :
    decodeFrom index (lead :: b :: rest) =
      (decodeFrom (index + 2) rest).map (Char.ofNat (joined 0xC0 lead [b]) :: ·) := by
  have one : ¬ lead < 0x80 := by simp [UInt8.lt_iff_toNat_lt]; omega
  rw [decodeFrom.eq_def]
  simp [one, UInt8.le_iff_toNat_le, low, high, trails]
  cases decodeFrom (index + 2) rest <;> rfl

theorem decodeFrom_three {lead b c : UInt8} (low : 0xE0 ≤ lead.toNat)
    (high : lead.toNat ≤ 0xEF) (second : isSecond lead b = true)
    (trails : isTrail c = true) :
    decodeFrom index (lead :: b :: c :: rest) =
      (decodeFrom (index + 3) rest).map (Char.ofNat (joined 0xE0 lead [b, c]) :: ·) := by
  have one : ¬ lead < 0x80 := by simp [UInt8.lt_iff_toNat_lt]; omega
  have two : ¬ lead.toNat ≤ 0xDF := by omega
  rw [decodeFrom.eq_def]
  simp [one, two, UInt8.le_iff_toNat_le, low, high, second, trails]
  cases decodeFrom (index + 3) rest <;> rfl

theorem decodeFrom_four {lead b c d : UInt8} (low : 0xF0 ≤ lead.toNat)
    (high : lead.toNat ≤ 0xF4) (second : isSecond lead b = true)
    (third : isTrail c = true) (trails : isTrail d = true) :
    decodeFrom index (lead :: b :: c :: d :: rest) =
      (decodeFrom (index + 4) rest).map (Char.ofNat (joined 0xF0 lead [b, c, d]) :: ·) := by
  have one : ¬ lead < 0x80 := by simp [UInt8.lt_iff_toNat_lt]; omega
  have two : ¬ lead.toNat ≤ 0xDF := by omega
  have three : ¬ lead.toNat ≤ 0xEF := by omega
  rw [decodeFrom.eq_def]
  simp [one, two, three, UInt8.le_iff_toNat_le, low, high, second, third, trails]
  cases decodeFrom (index + 4) rest <;> rfl

/-! ## From texts to bytes and back -/

/-- The numbers of characters leave out the surrogates and end with the last
code point. -/
theorem toNat_bounds (c : Char) :
    c.toNat < 0xD800 ∨ (0xDFFF < c.toNat ∧ c.toNat < 0x110000) :=
  c.valid

/-- A character is read from the front of its bytes, whatever follows them. -/
def ReadBack (c : Char) : Prop :=
  ∀ (index : Nat) (rest : List UInt8), decodeFrom index (encodeChar c ++ rest) =
    (decodeFrom (index + (encodeChar c).length) rest).map (c :: ·)

variable {c : Char}

theorem readBack_one (one : c.toNat < 0x80) : ReadBack c := by
  intro index rest
  have lead : (byte c.toNat).toNat = c.toNat := toNat_byte (by omega)
  have bytes : encodeChar c = [byte c.toNat] := by simp [encodeChar, one]
  rw [bytes, List.singleton_append, decodeFrom_one index rest (by omega), lead,
    Char.ofNat_toNat, List.length_singleton]

theorem readBack_two (low : 0x80 ≤ c.toNat) (high : c.toNat < 0x800) : ReadBack c := by
  intro index rest
  have lead : (byte (0xC0 + c.toNat / 64)).toNat = 0xC0 + c.toNat / 64 :=
    toNat_byte (by omega)
  have bytes : encodeChar c = [byte (0xC0 + c.toNat / 64), trail c.toNat] := by
    simp [encodeChar, Nat.not_lt.mpr low, high]
  have joins : joined 0xC0 (byte (0xC0 + c.toNat / 64)) [trail c.toNat] = c.toNat := by
    simp only [joined, List.foldl_cons, List.foldl_nil, lead, toNat_trail]
    omega
  rw [bytes, List.cons_append, List.singleton_append,
    decodeFrom_two index rest (by omega) (by omega) (isTrail_trail _), joins,
    Char.ofNat_toNat]
  rfl

theorem readBack_three (low : 0x800 ≤ c.toNat) (high : c.toNat < 0x10000) : ReadBack c := by
  intro index rest
  have bounds := toNat_bounds c
  have lead : (byte (0xE0 + c.toNat / 4096)).toNat = 0xE0 + c.toNat / 4096 :=
    toNat_byte (by omega)
  have bytes : encodeChar c =
      [byte (0xE0 + c.toNat / 4096), trail (c.toNat / 64), trail c.toNat] := by
    have one : ¬ c.toNat < 0x80 := by omega
    simp [encodeChar, one, Nat.not_lt.mpr low, high]
  have joins : joined 0xE0 (byte (0xE0 + c.toNat / 4096))
      [trail (c.toNat / 64), trail c.toNat] = c.toNat := by
    simp only [joined, List.foldl_cons, List.foldl_nil, lead, toNat_trail]
    omega
  have second : isSecond (byte (0xE0 + c.toNat / 4096)) (trail (c.toNat / 64)) = true := by
    rw [isSecond_iff, lead, toNat_trail]
    omega
  rw [bytes, List.cons_append, List.cons_append, List.singleton_append,
    decodeFrom_three index rest (by omega) (by omega) second (isTrail_trail _), joins,
    Char.ofNat_toNat]
  rfl

theorem readBack_four (low : 0x10000 ≤ c.toNat) : ReadBack c := by
  intro index rest
  have bounds := toNat_bounds c
  have lead : (byte (0xF0 + c.toNat / 262144)).toNat = 0xF0 + c.toNat / 262144 :=
    toNat_byte (by omega)
  have bytes : encodeChar c = [byte (0xF0 + c.toNat / 262144), trail (c.toNat / 4096),
      trail (c.toNat / 64), trail c.toNat] := by
    have one : ¬ c.toNat < 0x80 := by omega
    have two : ¬ c.toNat < 0x800 := by omega
    simp [encodeChar, one, two, Nat.not_lt.mpr low]
  have joins : joined 0xF0 (byte (0xF0 + c.toNat / 262144))
      [trail (c.toNat / 4096), trail (c.toNat / 64), trail c.toNat] = c.toNat := by
    simp only [joined, List.foldl_cons, List.foldl_nil, lead, toNat_trail]
    omega
  have second :
      isSecond (byte (0xF0 + c.toNat / 262144)) (trail (c.toNat / 4096)) = true := by
    rw [isSecond_iff, lead, toNat_trail]
    omega
  rw [bytes, List.cons_append, List.cons_append, List.cons_append, List.singleton_append,
    decodeFrom_four index rest (by omega) (by omega) second (isTrail_trail _)
      (isTrail_trail _), joins, Char.ofNat_toNat]
  rfl

theorem readBack (c : Char) : ReadBack c := by
  by_cases one : c.toNat < 0x80
  · exact readBack_one one
  · by_cases two : c.toNat < 0x800
    · exact readBack_two (Nat.not_lt.mp one) two
    · by_cases three : c.toNat < 0x10000
      · exact readBack_three (Nat.not_lt.mp two) three
      · exact readBack_four (Nat.not_lt.mp three)

theorem decodeFrom_flatMap (characters : List Char) (index : Nat) :
    decodeFrom index (characters.flatMap encodeChar) = .ok characters := by
  induction characters generalizing index with
  | nil => rfl
  | cons c characters inductionHypothesis =>
    rw [List.flatMap_cons, readBack, inductionHypothesis]
    rfl

/-- Every text is read back from its bytes. -/
theorem decode_encode (s : String) : decode (encode s) = .ok s := by
  rw [decode, encode, decodeFrom_flatMap]
  exact congrArg _ (String.ofList_toList)

/-! ## From bytes to texts and back -/

/-- A number that is neither a surrogate nor behind the last code point is that
of a character. -/
theorem toNat_ofNat {n : Nat} (valid : n < 0xD800 ∨ (0xDFFF < n ∧ n < 0x110000)) :
    (Char.ofNat n).toNat = n := by
  rw [Char.ofNat, dif_pos valid]
  rfl

theorem encodeChar_one {lead : UInt8} (low : lead.toNat < 0x80) :
    encodeChar (Char.ofNat lead.toNat) = [lead] := by
  have number := toNat_ofNat (n := lead.toNat) (by omega)
  simp only [encodeChar, number, low, ↓reduceIte]
  rw [byte_eq rfl]

theorem encodeChar_two {lead b : UInt8} (low : 0xC2 ≤ lead.toNat) (high : lead.toNat ≤ 0xDF)
    (trails : isTrail b = true) :
    encodeChar (Char.ofNat (joined 0xC0 lead [b])) = [lead, b] := by
  have bounds := (isTrail_iff b).mp trails
  have joins : joined 0xC0 lead [b] = (lead.toNat - 0xC0) * 64 + (b.toNat - 0x80) := rfl
  have number := toNat_ofNat (n := joined 0xC0 lead [b]) (by omega)
  have one : ¬ joined 0xC0 lead [b] < 0x80 := by omega
  have two : joined 0xC0 lead [b] < 0x800 := by omega
  simp only [encodeChar, number, one, two, ↓reduceIte]
  rw [byte_eq (b := lead) (by omega), trail_eq trails (by omega)]

theorem encodeChar_three {lead b c : UInt8} (low : 0xE0 ≤ lead.toNat)
    (high : lead.toNat ≤ 0xEF) (second : isSecond lead b = true)
    (trails : isTrail c = true) :
    encodeChar (Char.ofNat (joined 0xE0 lead [b, c])) = [lead, b, c] := by
  have bounds := (isTrail_iff c).mp trails
  rcases (isSecond_iff lead b).mp second with ⟨between, afterFirst, noSurrogate, -, -⟩
  have joins : joined 0xE0 lead [b, c] =
      ((lead.toNat - 0xE0) * 64 + (b.toNat - 0x80)) * 64 + (c.toNat - 0x80) := rfl
  have number := toNat_ofNat (n := joined 0xE0 lead [b, c]) (by omega)
  have one : ¬ joined 0xE0 lead [b, c] < 0x80 := by omega
  have two : ¬ joined 0xE0 lead [b, c] < 0x800 := by omega
  have three : joined 0xE0 lead [b, c] < 0x10000 := by omega
  simp only [encodeChar, number, one, two, three, ↓reduceIte]
  rw [byte_eq (b := lead) (by omega), trail_eq ((isTrail_iff b).mpr between) (by omega),
    trail_eq trails (by omega)]

theorem encodeChar_four {lead b c d : UInt8} (low : 0xF0 ≤ lead.toNat)
    (high : lead.toNat ≤ 0xF4) (second : isSecond lead b = true)
    (third : isTrail c = true) (trails : isTrail d = true) :
    encodeChar (Char.ofNat (joined 0xF0 lead [b, c, d])) = [lead, b, c, d] := by
  have thirdBounds := (isTrail_iff c).mp third
  have bounds := (isTrail_iff d).mp trails
  rcases (isSecond_iff lead b).mp second with ⟨between, -, -, afterFirst, beforeLast⟩
  have joins : joined 0xF0 lead [b, c, d] =
      (((lead.toNat - 0xF0) * 64 + (b.toNat - 0x80)) * 64 + (c.toNat - 0x80)) * 64 +
        (d.toNat - 0x80) := rfl
  have number := toNat_ofNat (n := joined 0xF0 lead [b, c, d]) (by omega)
  have one : ¬ joined 0xF0 lead [b, c, d] < 0x80 := by omega
  have two : ¬ joined 0xF0 lead [b, c, d] < 0x800 := by omega
  have three : ¬ joined 0xF0 lead [b, c, d] < 0x10000 := by omega
  simp only [encodeChar, number, one, two, three, ↓reduceIte]
  rw [byte_eq (b := lead) (by omega), trail_eq ((isTrail_iff b).mpr between) (by omega),
    trail_eq third (by omega), trail_eq trails (by omega)]

/-- Where the rest of a text is read with one character in front of it, both
are the bytes of what is read. -/
theorem append_of_map {index : Nat} {front rest : List UInt8} {c : Char}
    {characters : List Char} (front_eq : encodeChar c = front)
    (rest_eq : ∀ tail, decodeFrom index rest = .ok tail → rest = tail.flatMap encodeChar)
    (read : (do return c :: (← decodeFrom index rest)) = Except.ok characters) :
    front ++ rest = characters.flatMap encodeChar := by
  cases after : decodeFrom index rest with
  | error fault => rw [after] at read; cases read
  | ok tail =>
    rw [after] at read
    cases read
    rw [List.flatMap_cons, front_eq, ← rest_eq tail after]

/-- Bytes that are read as characters are the bytes of these. -/
theorem flatMap_of_decodeFrom {index : Nat} {bytes : List UInt8} {characters : List Char}
    (read : decodeFrom index bytes = .ok characters) :
    bytes = characters.flatMap encodeChar := by
  fun_induction decodeFrom index bytes generalizing characters with
  | case1 =>
    cases read
    rfl
  | case2 index lead rest low inductionHypothesis =>
    have lowNumber : lead.toNat < 0x80 := UInt8.lt_iff_toNat_lt.mp low
    exact append_of_map (encodeChar_one lowNumber) (fun _ => inductionHypothesis) read
  | case4 index lead one within b rest trails inductionHypothesis =>
    rcases within_iff.mp within with ⟨low, high⟩
    exact append_of_map (encodeChar_two low high trails) (fun _ => inductionHypothesis) read
  | case8 index lead one two within b second c rest trails inductionHypothesis =>
    rcases within_iff.mp within with ⟨low, high⟩
    exact append_of_map (encodeChar_three low high second trails)
      (fun _ => inductionHypothesis) read
  | case14 index lead one two three within b second c third d rest trails
      inductionHypothesis =>
    rcases within_iff.mp within with ⟨low, high⟩
    exact append_of_map (encodeChar_four low high second third trails)
      (fun _ => inductionHypothesis) read
  | _ => cases read

/-- Bytes that are read as a text are the bytes of that text. -/
theorem encode_of_decode {bytes : List UInt8} {s : String} (read : decode bytes = .ok s) :
    encode s = bytes := by
  cases after : decodeFrom 0 bytes with
  | error fault => rw [decode, after] at read; cases read
  | ok characters =>
    rw [decode, after] at read
    cases read
    rw [encode, String.toList_ofList, ← flatMap_of_decodeFrom after]

end IrLink.Text.Utf8
