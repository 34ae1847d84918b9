import StudyPlan.Text.Glyph

/-! Bytes and characters. A string written as bytes is read back as its characters, and bytes
that are read without a stray one among them are the bytes of a string. -/
namespace StudyPlan.Text
namespace Glyph

theorem codeBack {n : Nat} (valid : n.isValidChar) : (Char.ofNat n).toNat = n :=
  congrArg Char.toNat (dif_pos valid)

theorem scalarFound {least code : Nat} {c : Char} :
    scalar? least code = some c ↔ least ≤ code ∧ c.toNat = code := by
  unfold scalar?
  constructor
  · split
    · rename_i found
      rintro ⟨⟩
      exact ⟨found.1, codeBack found.2⟩
    · simp
  · rintro ⟨large, rfl⟩
    rw [if_pos ⟨large, c.valid⟩, Char.ofNat_toNat]

theorem byteIs {n : Nat} {b : UInt8} : UInt8.ofNat n = b ↔ n % 256 = b.toNat := by
  rw [← UInt8.toNat_inj, UInt8.toNat_ofNat']

theorem continues {b : UInt8} : isContinuation b ↔ 0x80 ≤ b.toNat ∧ b.toNat < 0xC0 := by
  simp [isContinuation, UInt8.le_iff_toNat_le, UInt8.lt_iff_toNat_lt]

theorem charBound (c : Char) : c.toNat < 0x110000 := by
  have valid := c.valid
  simp only [UInt32.isValidChar, Nat.isValidChar] at valid
  have same : c.val.toNat = c.toNat := rfl
  omega

theorem encoded (c : Char) : String.utf8EncodeChar c =
    if c.toNat ≤ 0x7F then [UInt8.ofNat c.toNat]
    else if c.toNat ≤ 0x7FF then
      [UInt8.ofNat (c.toNat / 64 % 32 + 0xC0), UInt8.ofNat (c.toNat % 64 + 0x80)]
    else if c.toNat ≤ 0xFFFF then
      [UInt8.ofNat (c.toNat / 4096 % 16 + 0xE0), UInt8.ofNat (c.toNat / 64 % 64 + 0x80),
        UInt8.ofNat (c.toNat % 64 + 0x80)]
    else
      [UInt8.ofNat (c.toNat / 262144 % 8 + 0xF0), UInt8.ofNat (c.toNat / 4096 % 64 + 0x80),
        UInt8.ofNat (c.toNat / 64 % 64 + 0x80), UInt8.ofNat (c.toNat % 64 + 0x80)] := rfl

theorem oneByte {c : Char} {a : UInt8} :
    String.utf8EncodeChar c = [a] ↔ a.toNat < 0x80 ∧ c.toNat = a.toNat := by
  have byte := a.toNat_lt
  rw [encoded]
  split
  · simp only [List.cons.injEq, and_true, byteIs]
    omega
  · have large : ¬ (a.toNat < 0x80 ∧ c.toNat = a.toNat) := by omega
    split
    · simp [large]
    · split <;> simp [large]

theorem twoBytes {c : Char} {a b : UInt8} :
    String.utf8EncodeChar c = [a, b] ↔ two? a b = some c := by
  have first := a.toNat_lt
  have second := b.toNat_lt
  rw [encoded]
  simp only [two?, Option.ite_none_right_eq_some, scalarFound, continues, payload,
    UInt8.le_iff_toNat_le, UInt8.lt_iff_toNat_lt, UInt8.reduceToNat]
  split
  · simp
    omega
  · split
    · simp only [List.cons.injEq, and_true, byteIs]
      omega
    · split <;> (simp; omega)

theorem threeBytes {c : Char} {a b d : UInt8} :
    String.utf8EncodeChar c = [a, b, d] ↔ three? a b d = some c := by
  have first := a.toNat_lt
  have second := b.toNat_lt
  have third := d.toNat_lt
  rw [encoded]
  simp only [three?, Option.ite_none_right_eq_some, scalarFound, continues, payload,
    UInt8.le_iff_toNat_le, UInt8.lt_iff_toNat_lt, UInt8.reduceToNat]
  split
  · simp
    omega
  · split
    · simp
      omega
    · split
      · simp only [List.cons.injEq, and_true, byteIs]
        omega
      · simp
        omega

theorem fourBytes {c : Char} {a b d e : UInt8} :
    String.utf8EncodeChar c = [a, b, d, e] ↔ four? a b d e = some c := by
  have first := a.toNat_lt
  have second := b.toNat_lt
  have third := d.toNat_lt
  have fourth := e.toNat_lt
  have bound := charBound c
  rw [encoded]
  simp only [four?, Option.ite_none_right_eq_some, scalarFound, continues, payload,
    UInt8.le_iff_toNat_le, UInt8.lt_iff_toNat_lt, UInt8.reduceToNat]
  split
  · simp
    omega
  · split
    · simp
      omega
    · split
      · simp
        omega
      · simp only [List.cons.injEq, and_true, byteIs]
        omega

/- The first byte alone decides how many bytes a character has. -/

theorem twoRange {a b : UInt8} {c : Char} (found : two? a b = some c) : 0x80 ≤ a ∧ a < 0xE0 := by
  obtain ⟨⟨low, high, -⟩, -⟩ := Option.ite_none_right_eq_some.mp found
  exact ⟨UInt8.le_trans (by decide) low, high⟩

theorem threeRange {a b d : UInt8} {c : Char} (found : three? a b d = some c) :
    0xE0 ≤ a ∧ a < 0xF0 := by
  obtain ⟨⟨low, high, -⟩, -⟩ := Option.ite_none_right_eq_some.mp found
  exact ⟨low, high⟩

theorem fourRange {a b d e : UInt8} {c : Char} (found : four? a b d e = some c) : 0xF0 ≤ a := by
  obtain ⟨⟨low, -⟩, -⟩ := Option.ite_none_right_eq_some.mp found
  exact low

theorem notTwo {a b : UInt8} (large : 0xE0 ≤ a) : two? a b = none := by
  cases found : two? a b with
  | none => rfl
  | some c => exact absurd (twoRange found).2 (UInt8.not_lt.mpr large)

theorem notThree {a b d : UInt8} (large : 0xF0 ≤ a) : three? a b d = none := by
  cases found : three? a b d with
  | none => rfl
  | some c => exact absurd (threeRange found).2 (UInt8.not_lt.mpr large)

theorem notOne {a b : UInt8} (large : b ≤ a) (multiple : 0x80 ≤ b) : ¬ a < 0x80 :=
  UInt8.not_lt.mpr (UInt8.le_trans multiple large)

theorem headDecodes {c : Char} {a : UInt8} {bs : List UInt8}
    (spelt : String.utf8EncodeChar c = a :: bs) (more : List UInt8) :
    head? a (bs ++ more) = some (c, bs.length) := by
  rcases bs with _ | ⟨b, _ | ⟨d, _ | ⟨e, _ | ⟨f, bs⟩⟩⟩⟩
  · obtain ⟨small, same⟩ := oneByte.mp spelt
    have small : a < 0x80 := UInt8.lt_iff_toNat_lt.mpr small
    simp [head?, small, ← same]
  · have found := twoBytes.mp spelt
    have large := notOne (twoRange found).1 (by decide)
    rcases more with _ | ⟨x, _ | ⟨y, more⟩⟩ <;> simp [head?, large, found]
  · have found := threeBytes.mp spelt
    have range := threeRange found
    have large := notOne range.1 (by decide)
    rcases more with _ | ⟨x, more⟩ <;> simp [head?, large, notTwo range.1, found]
  · have found := fourBytes.mp spelt
    have range := fourRange found
    have large := notOne range (by decide)
    simp [head?, large, notTwo (UInt8.le_trans (by decide) range), notThree range, found]
  · have length := String.length_utf8EncodeChar c
    have most := c.utf8Size_le_four
    simp only [spelt, List.length_cons] at length
    omega

theorem headEncodes {c : Char} {a : UInt8} {rest : List UInt8} {n : Nat}
    (read : head? a rest = some (c, n)) :
    ∃ bs more, rest = bs ++ more ∧ bs.length = n ∧ String.utf8EncodeChar c = a :: bs := by
  unfold head? at read
  split at read
  · rename_i small
    have small := UInt8.lt_iff_toNat_lt.mp small
    obtain ⟨rfl, rfl⟩ := Prod.mk.inj (Option.some.inj read)
    have valid : a.toNat.isValidChar := .inl (Nat.lt_trans small (by decide))
    exact ⟨[], rest, rfl, rfl, oneByte.mpr ⟨small, codeBack valid⟩⟩
  · split at read
    · contradiction
    · rename_i b
      simp only [Option.map_eq_some_iff, Prod.mk.injEq] at read
      obtain ⟨_, two, rfl, rfl⟩ := read
      exact ⟨[b], [], rfl, rfl, twoBytes.mpr two⟩
    · rename_i b d
      simp only [Option.orElse_eq_orElse, Option.orElse_eq_or, Option.or_eq_some_iff,
        Option.map_eq_some_iff, Prod.mk.injEq] at read
      rcases read with ⟨_, two, rfl, rfl⟩ | ⟨-, _, three, rfl, rfl⟩
      · exact ⟨[b], [d], rfl, rfl, twoBytes.mpr two⟩
      · exact ⟨[b, d], [], rfl, rfl, threeBytes.mpr three⟩
    · rename_i b d e more
      simp only [Option.orElse_eq_orElse, Option.orElse_eq_or, Option.or_eq_some_iff,
        Option.map_eq_some_iff, Prod.mk.injEq] at read
      rcases read with ⟨_, two, rfl, rfl⟩ | ⟨-, ⟨_, three, rfl, rfl⟩ | ⟨-, _, four, rfl, rfl⟩⟩
      · exact ⟨[b], d :: e :: more, rfl, rfl, twoBytes.mpr two⟩
      · exact ⟨[b, d], e :: more, rfl, rfl, threeBytes.mpr three⟩
      · exact ⟨[b, d, e], more, rfl, rfl, fourBytes.mpr four⟩

theorem skipped (bs more : List UInt8) :
    ofBytesAfter bs.length (bs ++ more) = ofBytesAfter 0 more := by
  induction bs with
  | nil => rfl
  | cons b bs ih => simpa [ofBytesAfter] using ih

theorem bytesOfChars (cs : List Char) :
    ofBytes (cs.flatMap String.utf8EncodeChar) = cs.map .char := by
  induction cs with
  | nil => rfl
  | cons c cs ih =>
    cases spelt : String.utf8EncodeChar c with
    | nil => exact absurd spelt String.utf8EncodeChar_ne_nil
    | cons a bs =>
      simp only [List.flatMap_cons, spelt, List.cons_append, ofBytes, ofBytesAfter,
        headDecodes spelt, skipped]
      rw [List.map_cons, ← ih]
      rfl

theorem ofBytesToBytes (s : String) : ofBytes (toBytes s) = ofString s := bytesOfChars s.toList

theorem charsOfBytes {bytes : List UInt8} {cs : List Char}
    (read : ofBytes bytes = cs.map .char) : cs.flatMap String.utf8EncodeChar = bytes := by
  induction cs generalizing bytes with
  | nil =>
    cases bytes with
    | nil => rfl
    | cons a rest =>
      simp only [ofBytes, ofBytesAfter, List.map_nil] at read
      split at read <;> contradiction
  | cons c cs ih =>
    cases bytes with
    | nil => contradiction
    | cons a rest =>
      simp only [ofBytes, ofBytesAfter, List.map_cons] at read
      split at read
      · rename_i x n head
        obtain ⟨same, others⟩ := List.cons.inj read
        cases same
        obtain ⟨bs, more, rfl, rfl, spelt⟩ := headEncodes head
        rw [skipped] at others
        simp [spelt, ih others]
      · exact absurd (List.cons.inj read).1 nofun

end Glyph

theorem toBytesUtf8 (s : String) : s.toUTF8.data.toList = toBytes s := by
  have encoded : s.toUTF8 = s.toList.utf8Encode := by simp
  rw [encoded, List.utf8Encode, toBytes]
  simp

theorem validUtf8 {bytes : ByteArray} :
    bytes.IsValidUTF8 ↔ ∃ cs : List Char, Glyph.ofBytes bytes.data.toList = cs.map .char := by
  constructor
  · rintro ⟨cs, rfl⟩
    refine ⟨cs, ?_⟩
    rw [List.utf8Encode, List.toList_data_toByteArray, Glyph.bytesOfChars]
  · rintro ⟨cs, read⟩
    refine .intro cs ?_
    rw [List.utf8Encode, Glyph.charsOfBytes read]
    apply ByteArray.ext
    rw [List.data_toByteArray, Array.toArray_toList]

end StudyPlan.Text
