import Ls8.Proofs.Json.Reading

/-!
# Reading strings

The reader of strings takes exactly what the grammar derives, part by part: four hexadecimal digits,
an escape, a string. A character past 16 bits is put together from its two halves and taken apart
into the same halves, so that either direction is arithmetic.

Main results:

* `readHex_eq_ok_iff`, `readEscape_eq_ok_iff`, `readString_eq_ok_iff` — reader and rule, each.
-/

namespace Ls8.Json

variable {a b c d : UInt8} {n : Nat} {bytes rest content : Bytes}

/-! ## Hexadecimal digits -/

theorem hexValue?_eq_some_iff : hexValue? b = some n ↔ HexDigit b n := by
  -- there are 256 bytes and 16 values
  have hall : ∀ k < 256, ∀ n < 16, hexValue? (UInt8.ofNat k) = some n ↔
      UInt8.ofNat k = ascii (Nat.digitChar n) ∨ UInt8.ofNat k = ascii (Nat.digitChar n).toUpper := by
    decide +kernel
  have hlt : ∀ k < 256, ∀ n ∈ hexValue? (UInt8.ofNat k), n < 16 := by decide +kernel
  have hb : UInt8.ofNat b.toNat = b := UInt8.ofNat_toNat
  have h := hall b.toNat (UInt8.toNat_lt b) n
  have h' := hlt b.toNat (UInt8.toNat_lt b) n
  rw [hb] at h h'
  constructor
  · intro hn
    have hsmall := h' hn
    exact ⟨hsmall, (h hsmall).1 hn⟩
  · rintro ⟨hsmall, hn⟩
    exact (h hsmall).2 hn

theorem hexValues?_eq_some_iff :
    hexValues? a b c d = some n ↔ ∃ p q r s, HexDigit a p ∧ HexDigit b q ∧ HexDigit c r ∧
      HexDigit d s ∧ n = ((p * 16 + q) * 16 + r) * 16 + s := by
  simp only [hexValues?, bind, Option.bind_eq_some_iff, pure, Option.some.injEq,
    hexValue?_eq_some_iff]
  constructor
  · rintro ⟨p, ha, q, hb, r, hc, s, hd, rfl⟩
    exact ⟨p, q, r, s, ha, hb, hc, hd, by omega⟩
  · rintro ⟨p, q, r, s, ha, hb, hc, hd, rfl⟩
    exact ⟨p, ha, q, hb, r, hc, s, hd, by omega⟩

theorem Hex.lt (h : Hex n bytes rest) : n < 0x10000 := by
  cases h with
  | mk ha hb hc hd =>
    have := ha.1
    have := hb.1
    have := hc.1
    have := hd.1
    omega

theorem readHex_eq_ok_iff : readHex bytes = .ok (n, rest) ↔ Hex n bytes rest := by
  constructor
  · intro h
    unfold readHex at h
    split at h
    · split at h
      · next hv =>
        cases h
        obtain ⟨p, q, r, s, ha, hb, hc, hd, rfl⟩ := hexValues?_eq_some_iff.1 hv
        exact .mk ha hb hc hd
      · cases h
    · cases h
  · intro h
    cases h with
    | mk ha hb hc hd =>
      simp only [readHex, hexValues?_eq_some_iff.2 ⟨_, _, _, _, ha, hb, hc, hd, rfl⟩]

/-! ## Characters past 16 bits -/

theorem toNat_ofNat_of_isValidChar (hn : n.isValidChar) : (Char.ofNat n).toNat = n := by
  rw [Char.ofNat, dif_pos hn]
  rfl

theorem isHighHalf_iff : isHighHalf n = true ↔ 0xD800 ≤ n ∧ n ≤ 0xDBFF := by
  simp only [isHighHalf, Bool.and_eq_true, decide_eq_true_eq]

theorem isLowHalf_iff : isLowHalf n = true ↔ 0xDC00 ≤ n ∧ n ≤ 0xDFFF := by
  simp only [isLowHalf, Bool.and_eq_true, decide_eq_true_eq]

/-- A number of 16 bits that is no half of a pair is that of a character. -/
theorem toNat_ofNat_of_not_half (hn : n < 0x10000) (hhigh : ¬isHighHalf n = true)
    (hlow : ¬isLowHalf n = true) : (Char.ofNat n).toNat = n := by
  rw [isHighHalf_iff] at hhigh
  rw [isLowHalf_iff] at hlow
  refine toNat_ofNat_of_isValidChar ?_
  unfold Nat.isValidChar
  omega

/-- The number of a character is no half of a pair. -/
theorem not_half_toNat (c : Char) : ¬isHighHalf c.toNat = true ∧ ¬isLowHalf c.toNat = true := by
  have hvalid : c.toNat.isValidChar := c.valid
  rw [isHighHalf_iff, isLowHalf_iff]
  unfold Nat.isValidChar at hvalid
  omega

theorem toNat_joinHalves {high low : Nat} (hhigh : isHighHalf high = true)
    (hlow : isLowHalf low = true) :
    (joinHalves high low).toNat = 0x10000 + (high - 0xD800) * 0x400 + (low - 0xDC00) := by
  rw [isHighHalf_iff] at hhigh
  rw [isLowHalf_iff] at hlow
  refine toNat_ofNat_of_isValidChar ?_
  unfold Nat.isValidChar
  omega

/-- A character past 16 bits is put together from its halves. -/
theorem joinHalves_toNat {c : Char} (hc : 0x10000 ≤ c.toNat) :
    isHighHalf (0xD800 + (c.toNat - 0x10000) / 0x400) = true ∧
      isLowHalf (0xDC00 + (c.toNat - 0x10000) % 0x400) = true ∧
      joinHalves (0xD800 + (c.toNat - 0x10000) / 0x400) (0xDC00 + (c.toNat - 0x10000) % 0x400) = c := by
  have hvalid : c.toNat.isValidChar := c.valid
  unfold Nat.isValidChar at hvalid
  have hhigh : isHighHalf (0xD800 + (c.toNat - 0x10000) / 0x400) = true := by
    rw [isHighHalf_iff]
    omega
  have hlow : isLowHalf (0xDC00 + (c.toNat - 0x10000) % 0x400) = true := by
    rw [isLowHalf_iff]
    omega
  refine ⟨hhigh, hlow, Char.toNat_inj.1 ?_⟩
  rw [toNat_joinHalves hhigh hlow]
  omega

/-- Halves are found again in the character that is put together from them. -/
theorem halves_joinHalves {high low : Nat} (hhigh : isHighHalf high = true)
    (hlow : isLowHalf low = true) :
    0x10000 ≤ (joinHalves high low).toNat ∧
      0xD800 + ((joinHalves high low).toNat - 0x10000) / 0x400 = high ∧
      0xDC00 + ((joinHalves high low).toNat - 0x10000) % 0x400 = low := by
  rw [toNat_joinHalves hhigh hlow]
  rw [isHighHalf_iff] at hhigh
  rw [isLowHalf_iff] at hlow
  omega

/-! ## Escapes -/

theorem expectInEscape_eq_ok_iff {c : Char} :
    expectInEscape c bytes = .ok ((), rest) ↔ bytes = ascii c :: rest := by
  cases bytes with
  | nil => simp [expectInEscape, failHere]
  | cons b r =>
    by_cases hb : b = ascii c
    · simp [expectInEscape, hb]
    · simp [expectInEscape, hb, failHere]

theorem CodePoint.of_readCodePoint {c : Char} (h : readCodePoint bytes = .ok (c, rest)) :
    CodePoint c bytes rest := by
  obtain ⟨⟨high, r⟩, hhex, h⟩ := bind_eq_ok_iff.1 h
  rw [readHex_eq_ok_iff] at hhex
  dsimp only at h
  split at h
  · cases h
  next hlow =>
    split at h
    · next hhigh =>
      -- the second half follows
      obtain ⟨⟨⟨⟩, r₁⟩, hslash, h₁⟩ := bind_eq_ok_iff.1 h
      obtain ⟨⟨⟨⟩, r₂⟩, hu, h₂⟩ := bind_eq_ok_iff.1 h₁
      obtain ⟨⟨low, r₃⟩, hhex', h₃⟩ := bind_eq_ok_iff.1 h₂
      obtain rfl := expectInEscape_eq_ok_iff.1 hslash
      obtain rfl := expectInEscape_eq_ok_iff.1 hu
      rw [readHex_eq_ok_iff] at hhex'
      split at h₃
      · next hlow' =>
        obtain ⟨rfl, rfl⟩ := Prod.mk.inj (Except.ok.inj h₃)
        obtain ⟨hc, hfirst, hsecond⟩ := halves_joinHalves hhigh hlow'
        exact .pair hc (by rwa [hfirst]) (by rwa [hsecond])
      · cases h₃
    · next hhigh =>
      cases h
      have hc := toNat_ofNat_of_not_half hhex.lt hhigh hlow
      rw [← hc] at hhex
      exact .single hhex.lt hhex

theorem CodePoint.readCodePoint {c : Char} (h : CodePoint c bytes rest) :
    readCodePoint bytes = .ok (c, rest) := by
  cases h with
  | single _ hhex =>
    obtain ⟨hhigh, hlow⟩ := not_half_toNat c
    refine bind_eq_ok_iff.2 ⟨_, readHex_eq_ok_iff.2 hhex, ?_⟩
    simp only [hlow, hhigh, Char.ofNat_toNat]
    rfl
  | pair hc hhex hhex' =>
    obtain ⟨hhigh, hlow, hjoin⟩ := joinHalves_toNat hc
    -- the first half is read as such and not as one that stands alone
    have hnot : ¬isLowHalf (0xD800 + (c.toNat - 0x10000) / 0x400) = true := by
      rw [isHighHalf_iff] at hhigh
      rw [isLowHalf_iff]
      omega
    refine bind_eq_ok_iff.2 ⟨_, readHex_eq_ok_iff.2 hhex, ?_⟩
    simp only [hnot, hhigh, if_true]
    refine bind_eq_ok_iff.2 ⟨_, expectInEscape_eq_ok_iff.2 rfl, ?_⟩
    refine bind_eq_ok_iff.2 ⟨_, expectInEscape_eq_ok_iff.2 rfl, ?_⟩
    refine bind_eq_ok_iff.2 ⟨_, readHex_eq_ok_iff.2 hhex', ?_⟩
    simp only [hlow, if_true, hjoin]
    rfl

/-- The byte of a character of one byte. -/
theorem eq_ascii_of_ofUInt8 {c : Char} (h : Char.ofUInt8 b = c) : b = ascii c := by
  rw [← h]
  exact (UInt8.toUInt8_toUInt32 b).symm

theorem escapedChar?_eq_some_iff {c : Char} :
    escapedChar? b = some c ↔ ∃ l, (l, c) ∈ escapes ∧ b = ascii l := by
  constructor
  · intro h
    unfold escapedChar? at h
    split at h
    all_goals cases h
    -- one case is left for each letter
    all_goals
      refine ⟨_, ?_, eq_ascii_of_ofUInt8 ‹Char.ofUInt8 b = _›⟩
      decide
  · rintro ⟨l, hl, rfl⟩
    simp only [escapes, List.mem_cons, Prod.mk.injEq, List.not_mem_nil, or_false] at hl
    rcases hl with ⟨rfl, rfl⟩ | ⟨rfl, rfl⟩ | ⟨rfl, rfl⟩ | ⟨rfl, rfl⟩ | ⟨rfl, rfl⟩ | ⟨rfl, rfl⟩ |
      ⟨rfl, rfl⟩ | ⟨rfl, rfl⟩ <;> rfl

theorem readEscape_eq_ok_iff {c : Char} : readEscape bytes = .ok (c, rest) ↔ Escape c bytes rest := by
  constructor
  · intro h
    unfold readEscape at h
    split at h
    · cases h
    · split at h
      · next hu =>
        subst hu
        exact .codePoint (.of_readCodePoint h)
      · split at h
        · next hl =>
          cases h
          obtain ⟨l, hmem, rfl⟩ := escapedChar?_eq_some_iff.1 hl
          exact .letter hmem
        · cases h
  · intro h
    cases h with
    | letter hl =>
      -- no letter is the one in front of a number
      have hu : ∀ p ∈ escapes, ascii p.1 ≠ ascii 'u' := by decide
      simp only [readEscape, hu _ hl, if_false, escapedChar?_eq_some_iff.2 ⟨_, hl, rfl⟩]
    | codePoint h => simp only [readEscape, if_true, h.readCodePoint]

/-! ## Strings -/

theorem Spells.of_readString (h : readString bytes = .ok (content, rest)) :
    Spells content bytes rest := by
  fun_induction readString bytes generalizing content with
  | case1 => cases h
  | case2 r =>
    cases h
    exact .nil rest
  | case3 => cases h
  | case4 r c r' hesc _ ih =>
    obtain ⟨⟨content', _⟩, hr, h⟩ := map_eq_ok_iff.1 h
    cases h
    exact .escape (readEscape_eq_ok_iff.1 hesc) (ih hr)
  | case5 => cases h
  | case6 b r hquote hslash hprintable ih =>
    obtain ⟨⟨content', _⟩, hr, h⟩ := map_eq_ok_iff.1 h
    cases h
    exact .plain (UInt8.not_lt.1 hprintable) hquote hslash (ih hr)

theorem Spells.readString (h : Spells content bytes rest) :
    Json.readString bytes = .ok (content, rest) := by
  induction h with
  | nil rest => rw [Json.readString, if_pos rfl]
  | @plain b _ _ _ hprintable hquote hslash _ ih =>
    have hnot : ¬b < firstPrintable := UInt8.not_lt.2 hprintable
    rw [Json.readString, if_neg hquote, if_neg hslash, if_neg hnot, ih]
    rfl
  | escape hesc _ ih =>
    rw [Json.readString, if_neg (by decide), if_pos rfl]
    -- the escape is read as the one in the grammar
    split
    · next hf => rw [readEscape_eq_ok_iff.2 hesc] at hf; cases hf
    · next hok =>
      rw [readEscape_eq_ok_iff.2 hesc] at hok
      cases hok
      rw [ih]
      rfl

theorem readString_eq_ok_iff : readString bytes = .ok (content, rest) ↔ Spells content bytes rest :=
  ⟨Spells.of_readString, Spells.readString⟩

end Ls8.Json
