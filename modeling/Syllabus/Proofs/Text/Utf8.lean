/-
  Syllabus.Proofs.Text.Utf8
  ─────────────────────────
  **A TEXT THAT IS WRITTEN DOWN IN BYTES IS READ AGAIN.**

  A character is written in one to four bytes, as many as its code needs.  The
  reader knows from the first byte how many follow, and which second bytes
  would make the character a shorter one, a surrogate or one beyond the last;
  no character is written with such a byte.

      step?_encoded   the bytes of a character are read as that character
      decode_encode   so are those of a text
-/
import Syllabus.Text.Utf8

namespace Syllabus.Text

/-! ## §1. Bytes that continue a character. -/

theorem toNat_byte {n : Nat} (h : n < 0x100) : (UInt8.ofNat n).toNat = n :=
  UInt8.toNat_ofNat_of_lt' h

/-- A byte that continues a character brings six bits. -/
theorem continued_cons {low high : UInt8} {n : Nat} (hlow : low.toNat ≤ n % 64 + 0x80)
    (hhigh : n % 64 + 0x80 ≤ high.toNat) (code taken follow : Nat) (rest : List UInt8) :
    continued low high code taken (follow + 1) (UInt8.ofNat (n % 64 + 0x80) :: rest)
      = continued 0x80 0xBF (code * 0x40 + n % 64) (taken + 1) follow rest := by
  have hbyte : (UInt8.ofNat (n % 64 + 0x80)).toNat = n % 64 + 0x80 := toNat_byte (by omega)
  have hrange : (low ≤ UInt8.ofNat (n % 64 + 0x80) && UInt8.ofNat (n % 64 + 0x80) ≤ high)
      = true := by
    simp only [Bool.and_eq_true, decide_eq_true_eq, UInt8.le_iff_toNat_le, hbyte]
    exact ⟨hlow, hhigh⟩
  have hbits : (n % 64 + 0x80) % 0x40 = n % 64 := by omega
  rw [continued, if_pos hrange, hbyte, hbits]

/-- The bytes behind the second one may be any. -/
theorem continued_tail (n code taken follow : Nat) (rest : List UInt8) :
    continued 0x80 0xBF code taken (follow + 1) (UInt8.ofNat (n % 64 + 0x80) :: rest)
      = continued 0x80 0xBF (code * 0x40 + n % 64) (taken + 1) follow rest := by
  have hlow : (0x80 : UInt8).toNat = 0x80 := rfl
  have hhigh : (0xBF : UInt8).toNat = 0xBF := rfl
  exact continued_cons (by omega) (by omega) code taken follow rest

/-! ## §2. First bytes. -/

theorem leadOf?_one {n : Nat} (h : n < 0x80) :
    leadOf? (UInt8.ofNat n) = some (0, 0x80, 0xBF) := by
  have hbyte : (UInt8.ofNat n).toNat = n := toNat_byte (by omega)
  unfold leadOf?
  rw [if_pos]
  rw [UInt8.lt_iff_toNat_lt, hbyte]
  exact h

theorem leadOf?_two {n : Nat} (hlow : 0xC2 ≤ n) (hhigh : n < 0xE0) :
    leadOf? (UInt8.ofNat n) = some (1, 0x80, 0xBF) := by
  have hbyte : (UInt8.ofNat n).toNat = n := toNat_byte (by omega)
  simp only [leadOf?, UInt8.lt_iff_toNat_lt, ← UInt8.toNat_inj, hbyte, UInt8.reduceToNat]
  rw [if_neg (by omega), if_neg (by omega), if_pos hhigh]

/-- Of three bytes the second is restricted behind the first one of all, and in front of the
surrogates. -/
theorem leadOf?_three {n : Nat} (hlow : 0xE0 ≤ n) (hhigh : n < 0xF0) :
    leadOf? (UInt8.ofNat n)
      = some (2, if n = 0xE0 then 0xA0 else 0x80, if n = 0xED then 0x9F else 0xBF) := by
  have hbyte : (UInt8.ofNat n).toNat = n := toNat_byte (by omega)
  simp only [leadOf?, UInt8.lt_iff_toNat_lt, ← UInt8.toNat_inj, hbyte, UInt8.reduceToNat]
  rw [if_neg (by omega), if_neg (by omega), if_neg (by omega)]
  by_cases hfirst : n = 0xE0
  · subst hfirst
    rfl
  · by_cases hsurrogate : n = 0xED
    · subst hsurrogate
      rfl
    · rw [if_neg hfirst, if_neg hsurrogate, if_pos hhigh, if_neg hfirst, if_neg hsurrogate]

theorem leadOf?_four {n : Nat} (hlow : 0xF0 ≤ n) (hhigh : n ≤ 0xF4) :
    leadOf? (UInt8.ofNat n)
      = some (3, if n = 0xF0 then 0x90 else 0x80, if n = 0xF4 then 0x8F else 0xBF) := by
  have hbyte : (UInt8.ofNat n).toNat = n := toNat_byte (by omega)
  simp only [leadOf?, UInt8.lt_iff_toNat_lt, ← UInt8.toNat_inj, hbyte, UInt8.reduceToNat]
  rw [if_neg (by omega), if_neg (by omega), if_neg (by omega), if_neg (by omega), if_neg (by omega),
    if_neg (by omega)]
  by_cases hfirst : n = 0xF0
  · subst hfirst
    rfl
  · by_cases hlast : n = 0xF4
    · subst hlast
      rfl
    · rw [if_neg hfirst, if_pos (by omega), if_neg hfirst, if_neg hlast]

/-! ## §3. Characters. -/

theorem step?_one {n : Nat} (h : n ≤ 0x7F) (rest : List UInt8) :
    step? (UInt8.ofNat n) rest = .ok (Char.ofNat n, rest) := by
  have hbits : leadBits 0 (UInt8.ofNat n) = n := toNat_byte (by omega)
  rw [step?, leadOf?_one (by omega)]
  dsimp only
  rw [continued, hbits]
  rfl

theorem step?_two {n : Nat} (hlow : 0x7F < n) (hhigh : n ≤ 0x7FF) (rest : List UInt8) :
    step? (UInt8.ofNat (n / 64 % 0x20 + 0xC0)) (UInt8.ofNat (n % 64 + 0x80) :: rest)
      = .ok (Char.ofNat n, rest) := by
  have hbits : leadBits 1 (UInt8.ofNat (n / 64 % 0x20 + 0xC0)) = n / 64 := by
    show (UInt8.ofNat _).toNat % 0x20 = _
    rw [toNat_byte (by omega)]
    omega
  have hcode : n / 64 * 0x40 + n % 64 = n := by omega
  rw [step?, leadOf?_two (by omega) (by omega)]
  dsimp only
  rw [continued_tail, continued, hbits, hcode]
  rfl

theorem step?_three {n : Nat} (hlow : 0x7FF < n) (hhigh : n ≤ 0xFFFF)
    (hvalid : n < 0xD800 ∨ 0xDFFF < n) (rest : List UInt8) :
    step? (UInt8.ofNat (n / 4096 % 0x10 + 0xE0))
        (UInt8.ofNat (n / 64 % 64 + 0x80) :: UInt8.ofNat (n % 64 + 0x80) :: rest)
      = .ok (Char.ofNat n, rest) := by
  have hbits : leadBits 2 (UInt8.ofNat (n / 4096 % 0x10 + 0xE0)) = n / 4096 := by
    show (UInt8.ofNat _).toNat % 0x10 = _
    rw [toNat_byte (by omega)]
    omega
  have hcode : (n / 4096 * 0x40 + n / 64 % 64) * 0x40 + n % 64 = n := by omega
  rw [step?, leadOf?_three (by omega) (by omega)]
  dsimp only
  rw [continued_cons, continued_tail, continued, hbits, hcode]
  · rfl
  · split
    · show 0xA0 ≤ _
      omega
    · show 0x80 ≤ _
      omega
  · split
    · show _ ≤ 0x9F
      omega
    · show _ ≤ 0xBF
      omega

theorem step?_four {n : Nat} (hlow : 0xFFFF < n) (hhigh : n < 0x110000) (rest : List UInt8) :
    step? (UInt8.ofNat (n / 262144 % 0x08 + 0xF0))
        (UInt8.ofNat (n / 4096 % 64 + 0x80) :: UInt8.ofNat (n / 64 % 64 + 0x80)
          :: UInt8.ofNat (n % 64 + 0x80) :: rest)
      = .ok (Char.ofNat n, rest) := by
  have hbits : leadBits 3 (UInt8.ofNat (n / 262144 % 0x08 + 0xF0)) = n / 262144 := by
    show (UInt8.ofNat _).toNat % 0x08 = _
    rw [toNat_byte (by omega)]
    omega
  have hcode : ((n / 262144 * 0x40 + n / 4096 % 64) * 0x40 + n / 64 % 64) * 0x40 + n % 64 = n := by
    omega
  rw [step?, leadOf?_four (by omega) (by omega)]
  dsimp only
  rw [continued_cons, continued_tail, continued_tail, continued, hbits, hcode]
  · rfl
  · split
    · show 0x90 ≤ _
      omega
    · show 0x80 ≤ _
      omega
  · split
    · show _ ≤ 0x8F
      omega
    · show _ ≤ 0xBF
      omega

/-- The bytes of a character are read as that character, whatever follows them. -/
theorem step?_encoded (c : Char) (rest : List UInt8) : ∃ b tail,
    String.utf8EncodeChar c = b :: tail ∧ step? b (tail ++ rest) = .ok (c, rest) := by
  have hback : Char.ofNat c.val.toNat = c := Char.ofNat_toNat c
  have hvalid : c.val.toNat < 0xD800 ∨ 0xDFFF < c.val.toNat ∧ c.val.toNat < 0x110000 := c.valid
  unfold String.utf8EncodeChar
  dsimp only
  generalize c.val.toNat = n at hback hvalid ⊢
  subst hback
  by_cases hone : n ≤ 0x7F
  · rw [if_pos hone]
    exact ⟨_, _, rfl, step?_one hone rest⟩
  rw [if_neg hone]
  by_cases htwo : n ≤ 0x7FF
  · rw [if_pos htwo]
    exact ⟨_, _, rfl, step?_two (by omega) htwo rest⟩
  rw [if_neg htwo]
  by_cases hthree : n ≤ 0xFFFF
  · rw [if_pos hthree]
    exact ⟨_, _, rfl, step?_three (by omega) hthree (by omega) rest⟩
  rw [if_neg hthree]
  exact ⟨_, _, rfl, step?_four (by omega) (by omega) rest⟩

/-! ## §4. Texts. -/

theorem decodeFrom_encoded (cs : List Char) (offset fuel : Nat)
    (hfuel : (cs.flatMap String.utf8EncodeChar).length ≤ fuel) :
    decodeFrom offset fuel (cs.flatMap String.utf8EncodeChar) = .ok cs := by
  induction cs generalizing offset fuel with
  | nil => cases fuel <;> rfl
  | cons c cs ih =>
      obtain ⟨b, tail, hbytes, hstep⟩ := step?_encoded c (cs.flatMap String.utf8EncodeChar)
      rw [List.flatMap_cons, hbytes, List.cons_append] at hfuel ⊢
      rw [List.length_cons, List.length_append] at hfuel
      -- A character has a byte at least, so what is left of the fuel is enough for the others.
      obtain ⟨fuel, rfl⟩ : ∃ k, fuel = k + 1 := ⟨fuel - 1, by omega⟩
      rw [decodeFrom, hstep]
      dsimp only
      rw [ih _ fuel (by omega)]
      rfl

/-- **A text that is written down in bytes is read again.** -/
theorem decode_encode (s : String) : decode (encode s) = .ok s := by
  unfold decode encode
  rw [decodeFrom_encoded s.toList 0 _ (Nat.le_refl _)]
  show Except.ok (String.ofList s.toList) = _
  rw [String.ofList_toList]

end Syllabus.Text
