import SpendLedger.Text.Basic

/-!
# The order of bytes

The store compares texts by their bytes in UTF-8, which is the order of their characters: the first byte of a character
tells how many bytes follow it, more of them for a larger character, and the bytes that follow are the last digits of its
number to the base 64.
-/

namespace SpendLedger

namespace Text

/-- The bytes of a text. -/
def utf8 (s : String) : List UInt8 :=
  s.toUTF8.data.toList

/-- The bytes of a text are those of its characters, one after the other. -/
theorem utf8_eq (s : String) : utf8 s = s.toList.flatMap String.utf8EncodeChar := by
  unfold utf8
  rw [String.toUTF8_eq_toByteArray, ← String.utf8Encode_toList, List.utf8Encode, List.toList_data_toByteArray]

/-! ## The bytes of a character -/

/-- How many bytes follow the first one. -/
def following (n : Nat) : Nat :=
  if n ≤ 0x7f then 0 else if n ≤ 0x7ff then 1 else if n ≤ 0xffff then 2 else 3

/-- The mark in a first byte that others follow. -/
def mark : Nat → Nat
  | 0 => 0
  | 1 => 0xc0
  | 2 => 0xe0
  | _ => 0xf0

/-- The last digits of a number to the base 64, as bytes that follow another. -/
def trail (n : Nat) : Nat → List UInt8
  | 0 => []
  | k + 1 => UInt8.ofNat (n / Nat.pow 64 k % 64 + 0x80) :: trail n k

/-- The first byte of a character, as a number. -/
def lead (n : Nat) : Nat :=
  n / Nat.pow 64 (following n) + mark (following n)

/-- Characters have numbers up to `0x10ffff`. -/
theorem toNat_lt (c : Char) : c.val.toNat < 0x110000 := by
  have hvalid := c.valid
  unfold UInt32.isValidChar Nat.isValidChar at hvalid
  omega

/-- The four lengths: where a number of a character lies, and its first byte. -/
theorem lead_cases {n : Nat} (h : n < 0x110000) :
    n < 0x80 ∧ following n = 0 ∧ lead n = n ∨
    0x80 ≤ n ∧ n < 0x800 ∧ following n = 1 ∧ lead n = n / 64 + 0xc0 ∨
    0x800 ≤ n ∧ n < 0x10000 ∧ following n = 2 ∧ lead n = n / 4096 + 0xe0 ∨
    0x10000 ≤ n ∧ following n = 3 ∧ lead n = n / 262144 + 0xf0 := by
  unfold lead following
  by_cases h1 : n ≤ 0x7f
  · rw [if_pos h1]
    exact Or.inl ⟨by omega, rfl, Nat.div_one n⟩
  · by_cases h2 : n ≤ 0x7ff
    · rw [if_neg h1, if_pos h2]
      exact Or.inr (Or.inl ⟨by omega, by omega, rfl, rfl⟩)
    · by_cases h3 : n ≤ 0xffff
      · rw [if_neg h1, if_neg h2, if_pos h3]
        exact Or.inr (Or.inr (Or.inl ⟨by omega, by omega, rfl, rfl⟩))
      · rw [if_neg h1, if_neg h2, if_neg h3]
        exact Or.inr (Or.inr (Or.inr ⟨by omega, rfl, rfl⟩))

/-- A character is written as its first byte and the bytes that follow it. -/
theorem utf8EncodeChar_eq (c : Char) : String.utf8EncodeChar c =
    UInt8.ofNat (lead c.val.toNat) :: trail c.val.toNat (following c.val.toNat) := by
  have hmax := toNat_lt c
  unfold String.utf8EncodeChar
  generalize c.val.toNat = n at hmax ⊢
  dsimp only
  rcases lead_cases hmax with ⟨hn, hk, hl⟩ | ⟨hn, hn', hk, hl⟩ | ⟨hn, hn', hk, hl⟩ | ⟨hn, hk, hl⟩
  · rw [hk, hl, if_pos (by omega)]
    rfl
  · have hhead : n / 64 % 32 = n / 64 := by omega
    rw [hk, hl, if_neg (by omega), if_pos (by omega), hhead]
    simp [trail, Nat.pow]
  · have hhead : n / 4096 % 16 = n / 4096 := by omega
    rw [hk, hl, if_neg (by omega), if_neg (by omega), if_pos (by omega), hhead]
    simp [trail, Nat.pow]
  · have hhead : n / 262144 % 8 = n / 262144 := by omega
    rw [hk, hl, if_neg (by omega), if_neg (by omega), if_neg (by omega), hhead]
    simp [trail, Nat.pow]

/-! ## The order -/

/-- Of two bytes the smaller one comes first, whatever follows. -/
theorem ofNat_cons_lt {m n : Nat} (h : m < n) (hn : n < 256) (xs ys : List UInt8) :
    UInt8.ofNat m :: xs < UInt8.ofNat n :: ys := by
  refine List.cons_lt_cons_iff.2 (Or.inl ?_)
  rw [UInt8.lt_iff_toNat_lt, UInt8.toNat_ofNat_of_lt' (Nat.lt_trans h hn), UInt8.toNat_ofNat_of_lt' hn]
  exact h

/-- Of numbers that agree before their last digits, the smaller one has the smaller last digits. -/
theorem trail_lt {m n : Nat} (h : m < n) (k : Nat) (hfront : m / Nat.pow 64 k = n / Nat.pow 64 k) (xs ys : List UInt8) :
    trail m k ++ xs < trail n k ++ ys := by
  induction k with
  | zero =>
    rw [show Nat.pow 64 0 = 1 from rfl, Nat.div_one, Nat.div_one] at hfront
    exact absurd hfront (Nat.ne_of_lt h)
  | succ k ih =>
    have hpow : Nat.pow 64 (k + 1) = Nat.pow 64 k * 64 := rfl
    rw [hpow, ← Nat.div_div_eq_div_mul, ← Nat.div_div_eq_div_mul] at hfront
    have hle : m / Nat.pow 64 k ≤ n / Nat.pow 64 k := Nat.div_le_div_right (Nat.le_of_lt h)
    unfold trail
    rcases Nat.lt_or_eq_of_le hle with hlt | heq
    · exact ofNat_cons_lt (by omega) (by omega) _ _
    · rw [heq]
      exact List.cons_lt_cons_iff.2 (Or.inr ⟨rfl, ih heq⟩)

/-- The bytes of a smaller character come first, whatever follows. -/
theorem utf8EncodeChar_lt {c d : Char} (h : c < d) (xs ys : List UInt8) :
    String.utf8EncodeChar c ++ xs < String.utf8EncodeChar d ++ ys := by
  have hlt : c.val.toNat < d.val.toNat := h
  -- first bytes of more bytes are larger than all those of fewer
  have hleads : lead c.val.toNat < lead d.val.toNat ∨
      following c.val.toNat = following d.val.toNat ∧ lead c.val.toNat = lead d.val.toNat := by
    have hc := lead_cases (toNat_lt c)
    have hd := lead_cases (toNat_lt d)
    omega
  rw [utf8EncodeChar_eq, utf8EncodeChar_eq, List.cons_append, List.cons_append]
  rcases hleads with hfirst | ⟨hsame, hfirst⟩
  · refine ofNat_cons_lt hfirst ?_ _ _
    have hd := lead_cases (toNat_lt d)
    have hmax := toNat_lt d
    omega
  · have hfront : c.val.toNat / Nat.pow 64 (following d.val.toNat) =
        d.val.toNat / Nat.pow 64 (following d.val.toNat) := by
      unfold lead at hfirst
      rw [hsame] at hfirst
      exact Nat.add_right_cancel hfirst
    rw [hfirst, hsame]
    exact List.cons_lt_cons_iff.2 (Or.inr ⟨rfl, trail_lt hlt _ hfront _ _⟩)

/-- Lists of characters in order have bytes in order. -/
theorem flatMap_lt {cs ds : List Char} (h : cs < ds) :
    cs.flatMap String.utf8EncodeChar < ds.flatMap String.utf8EncodeChar := by
  induction h with
  | nil =>
    rw [List.flatMap_cons, utf8EncodeChar_eq]
    exact List.nil_lt_cons _ _
  | rel hlt =>
    rw [List.flatMap_cons, List.flatMap_cons]
    exact utf8EncodeChar_lt hlt _ _
  | cons _ ih =>
    rw [List.flatMap_cons, List.flatMap_cons]
    exact List.append_left_lt ih

/-- Of two texts one comes first, or they are the same. -/
theorem trichotomy (s t : String) : s < t ∨ s = t ∨ t < s := by
  by_cases hst : s < t
  · exact Or.inl hst
  · by_cases hts : t < s
    · exact Or.inr (Or.inr hts)
    · exact Or.inr (Or.inl (String.le_antisymm (String.not_lt.1 hts) (String.not_lt.1 hst)))

/-- The bytes of texts are ordered as the texts. -/
theorem utf8_lt_iff {s t : String} : utf8 s < utf8 t ↔ s < t := by
  have hmono : ∀ {s t : String}, s < t → utf8 s < utf8 t := by
    intro s t h
    rw [utf8_eq, utf8_eq]
    exact flatMap_lt (String.lt_iff.1 h)
  refine ⟨fun h => ?_, hmono⟩
  rcases trichotomy s t with hlt | rfl | hgt
  · exact hlt
  · exact absurd h (List.lt_irrefl _)
  · exact absurd h (List.lt_asymm (hmono hgt))

end Text

end SpendLedger
