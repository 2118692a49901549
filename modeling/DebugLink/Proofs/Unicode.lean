import DebugLink.Text.Utf8

/-!
# Unicode: the bytes that are text are the bytes that were written

A character is spelled by one to four bytes, by the size of its number. The table `Lead.of?` says
what a first byte begins, and in which range the second byte has to be. Where the range is narrowed
it leaves out just the numbers for which fewer bytes would do and those that no character has
(`of?_three`, `of?_four`). So a sequence that is read is what its character would be written as
(`exists_char`), and what a character is written as is read (`decodeFrom_encodeChar`).

Main statement: `decode_eq_ok_iff`.
-/

namespace DebugLink.Utf8

variable {a b d e : UInt8} {bytes rest : Bytes} {lead : Lead} {start : Nat} {chars : List Char}

theorem toNat_ofNat {n : Nat} (valid : n.isValidChar) : (Char.ofNat n).toNat = n := by
  rw [Char.ofNat, dif_pos valid]
  rfl

theorem isValidChar_toNat (c : Char) : c.toNat.isValidChar :=
  c.valid

/-! ## The table -/

theorem of?_one (ascii : a.toNat < 0x80) : Lead.of? a = some ⟨a.toNat, 1, 0, 0x80, 0xBF⟩ := by
  rw [Lead.of?, if_pos ascii]

theorem of?_two (least : 0xC2 ≤ a.toNat) (below : a.toNat < 0xE0) :
    Lead.of? a = some ⟨a.toNat - 0xC0, 1, 1, 0x80, 0xBF⟩ := by
  rw [Lead.of?, if_neg (by omega), if_neg (by omega), if_pos below]

/-- Of three bytes the second leaves out the numbers below `0x800` and the surrogates. -/
theorem of?_three (least : 0xE0 ≤ a.toNat) (below : a.toNat < 0xF0) :
    ∃ low high, Lead.of? a = some ⟨a.toNat - 0xE0, 1, 2, low, high⟩ ∧
      ∀ n, low ≤ n ∧ n ≤ high ↔ 0x80 ≤ n ∧ n ≤ 0xBF ∧
        0x20 ≤ (a.toNat - 0xE0) * 64 + (n - 0x80) ∧
        ¬(0x360 ≤ (a.toNat - 0xE0) * 64 + (n - 0x80) ∧
          (a.toNat - 0xE0) * 64 + (n - 0x80) < 0x380) := by
  rw [Lead.of?, if_neg (by omega), if_neg (by omega), if_neg (by omega)]
  by_cases first : a.toNat = 0xE0
  · rw [if_pos first, first]
    exact ⟨_, _, rfl, by omega⟩
  · rw [if_neg first]
    by_cases surrogates : a.toNat = 0xED
    · rw [if_pos surrogates, surrogates]
      exact ⟨_, _, rfl, by omega⟩
    · rw [if_neg surrogates, if_pos below]
      exact ⟨_, _, rfl, by omega⟩

/-- Of four bytes the second leaves out the numbers below `0x10000` and from `0x110000` on. -/
theorem of?_four (least : 0xF0 ≤ a.toNat) (most : a.toNat ≤ 0xF4) :
    ∃ low high, Lead.of? a = some ⟨a.toNat - 0xF0, 1, 3, low, high⟩ ∧
      ∀ n, low ≤ n ∧ n ≤ high ↔ 0x80 ≤ n ∧ n ≤ 0xBF ∧
        0x10 ≤ (a.toNat - 0xF0) * 64 + (n - 0x80) ∧
        (a.toNat - 0xF0) * 64 + (n - 0x80) < 0x110 := by
  rw [Lead.of?, if_neg (by omega), if_neg (by omega), if_neg (by omega), if_neg (by omega),
    if_neg (by omega), if_neg (by omega)]
  by_cases first : a.toNat = 0xF0
  · rw [if_pos first, first]
    exact ⟨_, _, rfl, by omega⟩
  · rw [if_neg first]
    by_cases middle : a.toNat < 0xF4
    · rw [if_pos middle]
      exact ⟨_, _, rfl, by omega⟩
    · have last : a.toNat = 0xF4 := by omega
      rw [if_neg middle, if_pos last, last]
      exact ⟨_, _, rfl, by omega⟩

/-- No sequence begins with a continuation, nor with a byte that is too small or too large. -/
theorem of?_none (none : 0x80 ≤ a.toNat ∧ a.toNat < 0xC2 ∨ 0xF4 < a.toNat) :
    Lead.of? a = .none := by
  rw [Lead.of?, if_neg (by omega)]
  obtain ⟨-, below⟩ | large := none
  · rw [if_pos below]
  · rw [if_neg (by omega), if_neg (by omega), if_neg (by omega), if_neg (by omega),
      if_neg (by omega), if_neg (by omega), if_neg (by omega), if_neg (by omega)]

/-! ## Steps of the reader -/

section

variable {value seen missing low high : Nat}

theorem decodeFrom_ascii (ascii : a.toNat < 0x80) (rest : Bytes) :
    decodeFrom start none (a :: rest) =
      (Char.ofNat a.toNat :: ·) <$> decodeFrom (start + 1) none rest := by
  rw [decodeFrom, Lead.step?, of?_one ascii]
  rfl

theorem decodeFrom_first (opens : Lead.of? a = some ⟨value, seen, missing + 1, low, high⟩)
    (rest : Bytes) :
    decodeFrom start none (a :: rest) =
      decodeFrom start (some ⟨value, seen, missing + 1, low, high⟩) rest := by
  rw [decodeFrom, Lead.step?, opens]
  rfl

theorem decodeFrom_next (within : low ≤ b.toNat ∧ b.toNat ≤ high) (rest : Bytes) :
    decodeFrom start (some ⟨value, seen, missing + 2, low, high⟩) (b :: rest) =
      decodeFrom start (some ⟨value * 64 + (b.toNat - 0x80), seen + 1, missing + 1, 0x80, 0xBF⟩)
        rest := by
  rw [decodeFrom, Lead.step?, Lead.continue?, if_pos within]
  rfl

theorem decodeFrom_last (within : low ≤ b.toNat ∧ b.toNat ≤ high) (rest : Bytes) :
    decodeFrom start (some ⟨value, seen, 1, low, high⟩) (b :: rest) =
      (Char.ofNat (value * 64 + (b.toNat - 0x80)) :: ·) <$>
        decodeFrom (start + (seen + 1)) none rest := by
  rw [decodeFrom, Lead.step?, Lead.continue?, if_pos within]
  rfl

/-- A sequence under way is only read if it goes on with a byte in its range. -/
theorem exists_next (read : decodeFrom start (some ⟨value, seen, missing, low, high⟩) bytes =
    .ok chars) : ∃ b rest, bytes = b :: rest ∧ low ≤ b.toNat ∧ b.toNat ≤ high := by
  cases bytes with
  | nil => cases read
  | cons b rest =>
    refine ⟨b, rest, rfl, ?_⟩
    by_cases within : low ≤ b.toNat ∧ b.toNat ≤ high
    · exact within
    · rw [decodeFrom, Lead.step?, Lead.continue?, if_neg within] at read
      cases read

end

/-! ## Single characters -/

theorem encodeChar_one {c : Char} (small : c.toNat < 0x80) :
    ∃ a, encodeChar c = [a] ∧ a.toNat = c.toNat := by
  rw [encodeChar, if_pos small]
  refine ⟨_, rfl, ?_⟩
  rw [UInt8.toNat_ofNat']
  omega

theorem encodeChar_two {c : Char} (least : 0x80 ≤ c.toNat) (below : c.toNat < 0x800) :
    ∃ a b, encodeChar c = [a, b] ∧ a.toNat = 0xC0 + c.toNat / 64 ∧
      b.toNat = 0x80 + c.toNat % 64 := by
  rw [encodeChar, if_neg (by omega), if_pos below]
  refine ⟨_, _, rfl, ?_, ?_⟩
  all_goals
    rw [UInt8.toNat_ofNat']
    omega

theorem encodeChar_three {c : Char} (least : 0x800 ≤ c.toNat) (below : c.toNat < 0x10000) :
    ∃ a b d, encodeChar c = [a, b, d] ∧ a.toNat = 0xE0 + c.toNat / 4096 ∧
      b.toNat = 0x80 + c.toNat / 64 % 64 ∧ d.toNat = 0x80 + c.toNat % 64 := by
  rw [encodeChar, if_neg (by omega), if_neg (by omega), if_pos below]
  refine ⟨_, _, _, rfl, ?_, ?_, ?_⟩
  all_goals
    rw [UInt8.toNat_ofNat']
    omega

theorem encodeChar_four {c : Char} (least : 0x10000 ≤ c.toNat) :
    ∃ a b d e, encodeChar c = [a, b, d, e] ∧ a.toNat = 0xF0 + c.toNat / 262144 ∧
      b.toNat = 0x80 + c.toNat / 4096 % 64 ∧ d.toNat = 0x80 + c.toNat / 64 % 64 ∧
      e.toNat = 0x80 + c.toNat % 64 := by
  have valid := isValidChar_toNat c
  rw [Nat.isValidChar] at valid
  rw [encodeChar, if_neg (by omega), if_neg (by omega), if_neg (by omega)]
  refine ⟨_, _, _, _, rfl, ?_, ?_, ?_, ?_⟩
  all_goals
    rw [UInt8.toNat_ofNat']
    omega

theorem length_encodeChar_pos (c : Char) : 0 < (encodeChar c).length := by
  simp only [encodeChar]
  split
  · exact Nat.succ_pos _
  · split
    · exact Nat.succ_pos _
    · split <;> exact Nat.succ_pos _

/-- A character that was written is read. -/
theorem decodeFrom_encodeChar (c : Char) (start : Nat) (rest : Bytes) :
    decodeFrom start none (encodeChar c ++ rest) =
      (c :: ·) <$> decodeFrom (start + (encodeChar c).length) none rest := by
  have valid := isValidChar_toNat c
  rw [Nat.isValidChar] at valid
  by_cases one : c.toNat < 0x80
  · obtain ⟨a, bytes, first⟩ := encodeChar_one one
    rw [bytes, List.singleton_append, decodeFrom_ascii (by omega), first, Char.ofNat_toNat]
    rfl
  by_cases two : c.toNat < 0x800
  · obtain ⟨a, b, bytes, first, second⟩ := encodeChar_two (by omega) two
    have spelled : (a.toNat - 0xC0) * 64 + (b.toNat - 0x80) = c.toNat := by omega
    rw [bytes, List.cons_append, List.singleton_append,
      decodeFrom_first (of?_two (by omega) (by omega)), decodeFrom_last (by omega), spelled,
      Char.ofNat_toNat]
    rfl
  by_cases three : c.toNat < 0x10000
  · obtain ⟨a, b, d, bytes, first, second, third⟩ := encodeChar_three (by omega) three
    obtain ⟨low, high, opens, range⟩ := of?_three (a := a) (by omega) (by omega)
    have within := (range b.toNat).mpr (by omega)
    have spelled : ((a.toNat - 0xE0) * 64 + (b.toNat - 0x80)) * 64 + (d.toNat - 0x80) =
        c.toNat := by omega
    rw [bytes, List.cons_append, List.cons_append, List.singleton_append, decodeFrom_first opens,
      decodeFrom_next within, decodeFrom_last (by omega), spelled, Char.ofNat_toNat]
    rfl
  · obtain ⟨a, b, d, e, bytes, first, second, third, fourth⟩ := encodeChar_four (c := c) (by omega)
    obtain ⟨low, high, opens, range⟩ := of?_four (a := a) (by omega) (by omega)
    have within := (range b.toNat).mpr (by omega)
    have spelled : (((a.toNat - 0xF0) * 64 + (b.toNat - 0x80)) * 64 + (d.toNat - 0x80)) * 64 +
        (e.toNat - 0x80) = c.toNat := by omega
    rw [bytes, List.cons_append, List.cons_append, List.cons_append, List.singleton_append,
      decodeFrom_first opens, decodeFrom_next within, decodeFrom_next (by omega),
      decodeFrom_last (by omega), spelled, Char.ofNat_toNat]
    rfl

/-! ## Bytes that spell a character -/

theorem exists_encodeChar_one (ascii : a.toNat < 0x80) : ∃ c, encodeChar c = [a] := by
  have number := toNat_ofNat (n := a.toNat) (.inl (by omega))
  obtain ⟨a', written, first⟩ := encodeChar_one (c := Char.ofNat a.toNat) (by omega)
  obtain rfl : a' = a := UInt8.toNat_inj.mp (by omega)
  exact ⟨_, written⟩

theorem exists_encodeChar_two (least : 0xC2 ≤ a.toNat) (below : a.toNat < 0xE0)
    (second : 0x80 ≤ b.toNat ∧ b.toNat ≤ 0xBF) : ∃ c, encodeChar c = [a, b] := by
  have number := toNat_ofNat (n := (a.toNat - 0xC0) * 64 + (b.toNat - 0x80)) (.inl (by omega))
  obtain ⟨a', b', written, first', second'⟩ := encodeChar_two
    (c := Char.ofNat ((a.toNat - 0xC0) * 64 + (b.toNat - 0x80))) (by omega) (by omega)
  obtain rfl : a' = a := UInt8.toNat_inj.mp (by omega)
  obtain rfl : b' = b := UInt8.toNat_inj.mp (by omega)
  exact ⟨_, written⟩

theorem exists_encodeChar_three (least : 0xE0 ≤ a.toNat) (below : a.toNat < 0xF0)
    (second : 0x80 ≤ b.toNat ∧ b.toNat ≤ 0xBF ∧ 0x20 ≤ (a.toNat - 0xE0) * 64 + (b.toNat - 0x80) ∧
      ¬(0x360 ≤ (a.toNat - 0xE0) * 64 + (b.toNat - 0x80) ∧
        (a.toNat - 0xE0) * 64 + (b.toNat - 0x80) < 0x380))
    (third : 0x80 ≤ d.toNat ∧ d.toNat ≤ 0xBF) : ∃ c, encodeChar c = [a, b, d] := by
  have number := toNat_ofNat
    (n := ((a.toNat - 0xE0) * 64 + (b.toNat - 0x80)) * 64 + (d.toNat - 0x80)) (by
      rw [Nat.isValidChar]
      omega)
  obtain ⟨a', b', d', written, first', second', third'⟩ := encodeChar_three
    (c := Char.ofNat (((a.toNat - 0xE0) * 64 + (b.toNat - 0x80)) * 64 + (d.toNat - 0x80)))
    (by omega) (by omega)
  obtain rfl : a' = a := UInt8.toNat_inj.mp (by omega)
  obtain rfl : b' = b := UInt8.toNat_inj.mp (by omega)
  obtain rfl : d' = d := UInt8.toNat_inj.mp (by omega)
  exact ⟨_, written⟩

theorem exists_encodeChar_four (least : 0xF0 ≤ a.toNat) (most : a.toNat ≤ 0xF4)
    (second : 0x80 ≤ b.toNat ∧ b.toNat ≤ 0xBF ∧ 0x10 ≤ (a.toNat - 0xF0) * 64 + (b.toNat - 0x80) ∧
      (a.toNat - 0xF0) * 64 + (b.toNat - 0x80) < 0x110)
    (third : 0x80 ≤ d.toNat ∧ d.toNat ≤ 0xBF) (fourth : 0x80 ≤ e.toNat ∧ e.toNat ≤ 0xBF) :
    ∃ c, encodeChar c = [a, b, d, e] := by
  have number := toNat_ofNat
    (n := (((a.toNat - 0xF0) * 64 + (b.toNat - 0x80)) * 64 + (d.toNat - 0x80)) * 64 +
      (e.toNat - 0x80)) (by
      rw [Nat.isValidChar]
      omega)
  obtain ⟨a', b', d', e', written, first', second', third', fourth'⟩ := encodeChar_four
    (c := Char.ofNat ((((a.toNat - 0xF0) * 64 + (b.toNat - 0x80)) * 64 + (d.toNat - 0x80)) * 64 +
      (e.toNat - 0x80))) (by omega)
  obtain rfl : a' = a := UInt8.toNat_inj.mp (by omega)
  obtain rfl : b' = b := UInt8.toNat_inj.mp (by omega)
  obtain rfl : d' = d := UInt8.toNat_inj.mp (by omega)
  obtain rfl : e' = e := UInt8.toNat_inj.mp (by omega)
  exact ⟨_, written⟩

/-- What is read begins with what a character is written as. -/
theorem exists_char (read : decodeFrom start none (a :: bytes) = .ok chars) :
    ∃ c rest, a :: bytes = encodeChar c ++ rest := by
  by_cases one : a.toNat < 0x80
  · obtain ⟨c, written⟩ := exists_encodeChar_one one
    exact ⟨c, bytes, by rw [written, List.singleton_append]⟩
  by_cases stray : a.toNat < 0xC2 ∨ 0xF4 < a.toNat
  · rw [decodeFrom, Lead.step?, of?_none (by omega)] at read
    cases read
  by_cases two : a.toNat < 0xE0
  · rw [decodeFrom_first (of?_two (by omega) two)] at read
    obtain ⟨b, rest, rfl, second⟩ := exists_next read
    obtain ⟨c, written⟩ := exists_encodeChar_two (a := a) (by omega) two second
    exact ⟨c, rest, by rw [written, List.cons_append, List.singleton_append]⟩
  by_cases three : a.toNat < 0xF0
  · obtain ⟨low, high, opens, range⟩ := of?_three (a := a) (by omega) three
    rw [decodeFrom_first opens] at read
    obtain ⟨b, rest, rfl, second⟩ := exists_next read
    rw [decodeFrom_next second] at read
    obtain ⟨d, rest, rfl, third⟩ := exists_next read
    obtain ⟨c, written⟩ :=
      exists_encodeChar_three (by omega) three ((range b.toNat).mp second) third
    exact ⟨c, rest, by rw [written, List.cons_append, List.cons_append, List.singleton_append]⟩
  · obtain ⟨low, high, opens, range⟩ := of?_four (a := a) (by omega) (by omega)
    rw [decodeFrom_first opens] at read
    obtain ⟨b, rest, rfl, second⟩ := exists_next read
    rw [decodeFrom_next second] at read
    obtain ⟨d, rest, rfl, third⟩ := exists_next read
    rw [decodeFrom_next third] at read
    obtain ⟨e, rest, rfl, fourth⟩ := exists_next read
    obtain ⟨c, written⟩ := exists_encodeChar_four (by omega) (by omega)
      ((range b.toNat).mp second) third fourth
    exact ⟨c, rest, by
      rw [written, List.cons_append, List.cons_append, List.cons_append, List.singleton_append]⟩

/-! ## Texts -/

theorem decodeFrom_encode (start : Nat) (chars : List Char) :
    decodeFrom start none (encode chars) = .ok chars := by
  induction chars generalizing start with
  | nil => rfl
  | cons c chars ih =>
    rw [encode, List.flatMap_cons, decodeFrom_encodeChar]
    rw [encode] at ih
    rw [ih]
    rfl

/-- By induction on the number of bytes, since a character takes at least one of them. -/
theorem encode_of_decodeFrom (read : decodeFrom start none bytes = .ok chars) :
    bytes = encode chars := by
  induction size : bytes.length using Nat.strongRecOn generalizing bytes start chars with
  | _ size ih =>
    subst size
    cases bytes with
    | nil =>
      cases read
      rfl
    | cons a bytes =>
      obtain ⟨c, rest, written⟩ := exists_char read
      rw [written, decodeFrom_encodeChar] at read
      have shorter : rest.length < (a :: bytes).length := by
        have some := length_encodeChar_pos c
        rw [written, List.length_append]
        omega
      cases next : decodeFrom (start + (encodeChar c).length) none rest with
      | error fault =>
        rw [next] at read
        cases read
      | ok chars' =>
        rw [next] at read
        obtain rfl : c :: chars' = chars := Except.ok.inj read
        rw [written, ih _ shorter next rfl, encode, encode, List.flatMap_cons]

/-- The bytes that are read as a text are those that it is written as. -/
theorem decode_eq_ok_iff : decode bytes = .ok chars ↔ bytes = encode chars := by
  constructor
  · intro read
    exact encode_of_decodeFrom read
  · rintro rfl
    exact decodeFrom_encode 0 chars

end DebugLink.Utf8
